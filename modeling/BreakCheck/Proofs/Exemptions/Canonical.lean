/-
BreakCheck/Proofs/Exemptions/Canonical.lean

The sorted list of exemptions, which forgets how they were declared.

Nothing else than that is forgotten: the same IDs stand in the list, each with its paths in
another order (`get?_sorted`).  No ID occurs twice, so the order of the IDs is strict and leaves
no choice; therefore the list is the same for all tables that say the same of every ID, and
declaring it again gives it back (`sorted_ofList_sorted`).

Texts are sorted by their code points.  In this file their order is told by their bytes, which
is the same order (`textLe_iff_bytes`).

Main result: `sorted_forgets_history`, for two lists that are declared in any order.
-/
import BreakCheck.Proofs.ByteOrder
import BreakCheck.Proofs.Exemptions.Declared
import BreakCheck.Proofs.Exemptions.Sorted

namespace BreakCheck.Exemptions

/-! ### What stands in the sorted list -/

theorem ids_sorted_perm (table : Exemptions) :
    (Ledger.ids table.sorted).Perm (Ledger.ids table.toList) := by
  have ids_tidy : Ledger.ids table.tidy = Ledger.ids table.toList := List.map_map
  rw [← ids_tidy]
  exact table.sorted_perm.map Exemption.id

theorem nodup_ids_sorted (table : Exemptions) : (Ledger.ids table.sorted).Nodup :=
  table.ids_sorted_perm.nodup_iff.2 table.nodup_ids_toList

/-- **What is found in the sorted list** is what is found in the table, sorted. -/
theorem get?_sorted (table : Exemptions) (id : String) :
    Ledger.get? table.sorted id = (table.get? id).map sortTexts := by
  apply Option.ext
  intro paths
  rw [Ledger.get?_eq_some_iff table.nodup_ids_sorted, table.sorted_perm.mem_iff, mem_tidy_iff,
    Option.map_eq_some_iff]

/-- An entry of the sorted list has the sorted paths of its ID. -/
theorem exists_get?_of_mem_sorted {table : Exemptions} {entry : Exemption}
    (held : entry ∈ table.sorted) :
    ∃ paths, table.get? entry.id = some paths ∧ entry.paths = sortTexts paths := by
  have found := (Ledger.get?_eq_some_iff table.nodup_ids_sorted entry.id entry.paths).2 held
  rw [get?_sorted] at found
  obtain ⟨paths, found, same⟩ := Option.map_eq_some_iff.1 found
  exact ⟨paths, found, same.symm⟩

/-! ### Its order -/

/-- **IDs ascend strictly**, for none occurs twice. -/
theorem pairwise_bytes_id (table : Exemptions) :
    table.sorted.Pairwise fun a b => bytes a.id < bytes b.id := by
  have distinct : table.sorted.Pairwise fun a b => a.id ≠ b.id :=
    List.pairwise_map.1 table.nodup_ids_sorted
  refine (table.pairwise_sorted.and distinct).imp ?_
  rintro a b ⟨ascending, differ⟩
  have ascending : a.id ≤ b.id := of_decide_eq_true ascending
  exact bytes_lt (lt_of_le_of_ne ascending differ)

theorem pairwise_bytes_paths {table : Exemptions} {entry : Exemption}
    (held : entry ∈ table.sorted) : entry.paths.Pairwise fun a b => bytes a ≤ bytes b := by
  obtain ⟨paths, -, same⟩ := exists_get?_of_mem_sorted held
  rw [same]
  exact (pairwise_sortTexts paths).imp fun ascending => (textLe_iff_bytes _ _).1 ascending

/-! ### Declaring it again -/

theorem sorted_ofList_sorted (table : Exemptions) :
    (ofList table.sorted).value.sorted = table.sorted := by
  rw [sorted_eq_iff]
  intro id
  rw [get?_eq_ledger, toList_ofList_of_nodup table.nodup_ids_sorted, get?_sorted]
  cases table.get? id with
  | none => exact .none
  | some paths => exact .some (sortTexts_perm paths)

/-! ### Two lists -/

/-- Two lists say the same of every ID exactly if they mention the same IDs, and the paths that
they declare last for each of them are the same up to order. -/
theorem rel_lastPaths?_iff (entries entries' : List Exemption) :
    (∀ id, Option.Rel List.Perm (Ledger.lastPaths? entries id) (Ledger.lastPaths? entries' id))
      ↔ (∀ id, id ∈ Ledger.ids entries ↔ id ∈ Ledger.ids entries')
        ∧ ∀ id paths paths', Ledger.lastPaths? entries id = some paths →
          Ledger.lastPaths? entries' id = some paths' → paths.Perm paths' := by
  constructor
  · intro agree
    constructor
    · intro id
      have agree := agree id
      rw [← not_iff_not, ← Ledger.lastPaths?_eq_none_iff, ← Ledger.lastPaths?_eq_none_iff]
      generalize Ledger.lastPaths? entries id = last at agree
      generalize Ledger.lastPaths? entries' id = last' at agree
      cases agree with
      | none => exact Iff.rfl
      | some perm => exact iff_of_false nofun nofun
    · intro id paths paths' last last'
      have agree := agree id
      rw [last, last'] at agree
      cases agree with
      | some perm => exact perm
  · rintro ⟨mentioned, alike⟩ id
    have mentioned := mentioned id
    rw [← not_iff_not, ← Ledger.lastPaths?_eq_none_iff, ← Ledger.lastPaths?_eq_none_iff]
      at mentioned
    cases last : Ledger.lastPaths? entries id with
    | none =>
      rw [mentioned.1 last]
      exact .none
    | some paths =>
      cases last' : Ledger.lastPaths? entries' id with
      | none =>
        rw [mentioned.2 last'] at last
        cases last
      | some paths' => exact .some (alike id paths paths' last last')

/-- **The sorted list forgets the history of a table and nothing else.**  Its IDs ascend
strictly by their bytes, the paths of each ascend, and it has the IDs of the table, each with its
paths in another order.  Declared again it is sorted as before.  Two lists of exemptions, with
IDs repeated or not, are sorted alike exactly if they mention the same IDs and declare last for
each the same paths up to order. -/
theorem sorted_forgets_history :
    (∀ table : Exemptions,
        (table.sorted.Pairwise fun a b => bytes a.id < bytes b.id)
          ∧ (∀ entry ∈ table.sorted, entry.paths.Pairwise fun a b => bytes a ≤ bytes b)
          ∧ (Ledger.ids table.sorted).Perm (Ledger.ids table.toList)
          ∧ (∀ entry ∈ table.sorted,
            ∃ paths, table.get? entry.id = some paths ∧ entry.paths.Perm paths)
          ∧ (ofList table.sorted).value.sorted = table.sorted)
      ∧ ∀ entries entries', (ofList entries).value.sorted = (ofList entries').value.sorted
        ↔ (∀ id, id ∈ Ledger.ids entries ↔ id ∈ Ledger.ids entries')
          ∧ ∀ id paths paths', Ledger.lastPaths? entries id = some paths →
            Ledger.lastPaths? entries' id = some paths' → paths.Perm paths' := by
  constructor
  · intro table
    refine ⟨table.pairwise_bytes_id, fun _ => pairwise_bytes_paths, table.ids_sorted_perm, ?_,
      table.sorted_ofList_sorted⟩
    intro entry held
    obtain ⟨paths, found, same⟩ := exists_get?_of_mem_sorted held
    exact ⟨paths, found, same ▸ sortTexts_perm paths⟩
  · intro entries entries'
    rw [sorted_eq_iff, ← rel_lastPaths?_iff]
    simp only [get?_ofList]

end BreakCheck.Exemptions

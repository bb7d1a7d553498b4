/-
BreakCheck/Proofs/Exemptions/Declared.lean

What declaring a list of exemptions leaves, and of what it gives notice.

Of an ID that is declared several times the place is that of the first declaration and the
paths are those of the last one; in between a notice is issued for every declaration but the
first.  So an exemption of the list either makes an entry or a notice, which is why both
together are as many as there are exemptions (`length_notices_ofList`).

Design.  Declaring goes along the list, and each step depends on what has been declared in
front of it.  The inductions therefore take the list from the back, where one exemption more
is put on a table that is known already (`ofList_concat`).  `Ledger.repeated` says without any
table which exemptions have another one with the same ID in front of them.

Main result: `ofList_collapses`.
-/
import BreakCheck.Proofs.Ledger.Folded

namespace BreakCheck

namespace Ledger

/-! ### Repeated IDs -/

/-- The IDs of the exemptions that have another one with the same ID in front of them, in
their order. -/
def repeated (entries : List Exemption) : List String :=
  (entries.zipIdx.filter fun (entry, place) => entry.id ∈ ids (entries.take place)).map
    fun (entry, _) => entry.id

theorem repeated_concat (entries : List Exemption) (entry : Exemption) :
    repeated (entries ++ [entry])
      = repeated entries ++ if entry.id ∈ ids entries then [entry.id] else [] := by
  -- what stands in front of an exemption is the same with or without the last one
  have front : (entries.zipIdx.filter fun (other, place) =>
        other.id ∈ ids ((entries ++ [entry]).take place))
      = entries.zipIdx.filter fun (other, place) => other.id ∈ ids (entries.take place) := by
    apply List.filter_congr
    rintro ⟨other, place⟩ held
    have inside : place ≤ entries.length := by
      have := List.snd_lt_of_mem_zipIdx held
      omega
    show decide (other.id ∈ ids ((entries ++ [entry]).take place)) = _
    rw [List.take_append_of_le_length inside]
  have last : (entries ++ [entry]).take (0 + entries.length) = entries := by simp
  rw [repeated, List.zipIdx_append, List.filter_append, front, List.map_append, repeated]
  congr 1
  by_cases known : entry.id ∈ ids entries <;> simp [known]

end Ledger

namespace Exemptions

/-! ### One exemption more -/

theorem ofList_concat (entries : List Exemption) (entry : Exemption) :
    ofList (entries ++ [entry]) = ofList entries >>= fun table => table.declare entry := by
  rw [ofList, List.foldlM_append]
  apply congrArg
  funext table
  rw [List.foldlM_cons]
  exact bind_pure _

/-- What is found of declared exemptions is what was declared last. -/
theorem get?_ofList (entries : List Exemption) (id : String) :
    (ofList entries).value.get? id = Ledger.lastPaths? entries id := by
  rw [get?_eq_ledger, toList_ofList, Ledger.get?_ofList]

/-- **Notices** are issued for repeated IDs. -/
theorem notices_ofList (entries : List Exemption) :
    (ofList entries).notices = (Ledger.repeated entries).map .duplicateId := by
  induction entries using List.reverseRecOn with
  | nil => rfl
  | append_singleton entries entry ih =>
    have known : ((ofList entries).value.get? entry.id).isSome = true
        ↔ entry.id ∈ Ledger.ids entries := by
      rw [get?_ofList, ← Option.ne_none_iff_isSome, Ne, Ledger.lastPaths?_eq_none_iff, not_not]
    rw [ofList_concat, Logged.notices_bind, ih, notices_declare, Ledger.repeated_concat,
      List.map_append]
    apply congrArg
    by_cases held : entry.id ∈ Ledger.ids entries
    · rw [if_pos (known.2 held), if_pos held]
      rfl
    · rw [if_neg (mt known.1 held), if_neg held]
      rfl

/-- Every exemption makes an entry or a notice. -/
theorem length_notices_ofList (entries : List Exemption) :
    (ofList entries).notices.length + (ofList entries).value.toList.length = entries.length := by
  have length_eq (entries : List Exemption) :
      (ofList entries).value.toList.length = (Ledger.ids entries).eraseDups.length := by
    rw [← Ledger.ids_ofList, ← toList_ofList, Ledger.ids, List.length_map]
  rw [notices_ofList, length_eq, List.length_map]
  induction entries using List.reverseRecOn with
  | nil => rfl
  | append_singleton entries entry ih =>
    rw [Ledger.repeated_concat, Ledger.ids_concat, Ledger.eraseDups_concat, List.length_append,
      List.length_append, ← ih]
    by_cases known : entry.id ∈ Ledger.ids entries
    · rw [if_pos known, if_pos known]
      exact Nat.add_right_comm _ _ _
    · rw [if_neg known, if_neg known, List.length_append]
      rfl

/-! ### Lists one behind the other -/

/-- Declaring more is putting it one by one. -/
theorem value_foldlM_declare (entries : List Exemption) (table : Exemptions) :
    (entries.foldlM declare table).value
      = entries.foldl (fun table entry => (table.put entry.id entry.paths).2) table := by
  induction entries generalizing table with
  | nil => rfl
  | cons entry rest ih =>
    rw [List.foldlM_cons, Logged.value_bind, ih, value_declare, List.foldl_cons]

theorem value_ofList_append (entries more : List Exemption) :
    (ofList (entries ++ more)).value
      = more.foldl (fun table entry => (table.put entry.id entry.paths).2)
          (ofList entries).value := by
  rw [ofList, List.foldlM_append, Logged.value_bind, value_foldlM_declare]
  rfl

/-! ### Maps -/

/-- In a map the last write wins, too. -/
theorem getElem?_foldl_insert (entries : List Exemption) (id : String) :
    (entries.foldl (fun map entry => map.insert entry.id entry.paths)
        (∅ : Std.ExtTreeMap String (List String)))[id]?
      = Ledger.lastPaths? entries id := by
  induction entries using List.reverseRecOn with
  | nil => exact Std.ExtTreeMap.getElem?_empty
  | append_singleton entries entry ih =>
    rw [List.foldl_append, Ledger.lastPaths?_concat, ← ih, List.foldl_cons, List.foldl_nil,
      Std.ExtTreeMap.getElem?_insert]
    simp only [Std.LawfulEqCmp.compare_eq_iff_eq]

theorem byId_ofList (entries : List Exemption) :
    (ofList entries).value.byId
      = entries.foldl (fun map entry => map.insert entry.id entry.paths) ∅ := by
  apply Std.ExtTreeMap.ext_getElem?
  intro id
  rw [getElem?_byId, getElem?_foldl_insert, toList_ofList, Ledger.get?_ofList]

/-- **A map comes back** from the exemptions that are made of it. -/
theorem byId_ofById (map : Std.ExtTreeMap String (List String)) :
    (ofById map).value.byId = map := by
  have nodup := nodup_ids_map map
  apply Std.ExtTreeMap.ext_getElem?
  intro id
  rw [getElem?_byId, ofById, toList_ofList_of_nodup nodup]
  apply Option.ext
  intro paths
  rw [Ledger.get?_eq_some_iff nodup, List.mem_map, ← Std.ExtTreeMap.mem_toList_iff_getElem?_eq_some]
  constructor
  · rintro ⟨⟨id, paths⟩, held, same⟩
    cases same
    exact held
  · intro held
    exact ⟨(id, paths), held, rfl⟩

/-! ### What declaring comes to -/

/-- **Declaring folds repeated IDs together.**  Every ID is left once, where it is declared
first, with the paths that it is declared with last; as a map this is what writing one after
the other leaves.  A notice is issued for each exemption whose ID has been declared in front of
it, so that entries and notices are as many as there are exemptions.  More exemptions may be put
one by one instead.  What is left of a list is declared again without any notice and without any
change, and so is a map. -/
theorem ofList_collapses :
    (∀ entries, (ofList entries).value.toList = Ledger.folded entries
        ∧ (ofList entries).value.byId
          = entries.foldl (fun map entry => map.insert entry.id entry.paths) ∅
        ∧ (ofList entries).notices = (Ledger.repeated entries).map .duplicateId
        ∧ (ofList entries).notices.length + (ofList entries).value.toList.length
          = entries.length)
      ∧ (∀ entries more, (ofList (entries ++ more)).value
        = more.foldl (fun table entry => (table.put entry.id entry.paths).2)
            (ofList entries).value)
      ∧ (∀ table : Exemptions, ofList table.toList = pure table)
      ∧ ∀ map, (ofById map).value.byId = map ∧ (ofById map).notices = [] := by
  refine ⟨?_, value_ofList_append, ofList_toList, ?_⟩
  · intro entries
    exact ⟨toList_ofList_eq_folded entries, byId_ofList entries, notices_ofList entries,
      length_notices_ofList entries⟩
  · intro map
    exact ⟨byId_ofById map, notices_ofList_of_nodup (nodup_ids_map map)⟩

end Exemptions

end BreakCheck

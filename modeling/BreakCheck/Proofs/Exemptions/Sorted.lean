/-
BreakCheck/Proofs/Exemptions/Sorted.lean

Sorting forgets the order, and nothing else.

Texts are ordered totally, so a sorted list of texts is determined by what it
holds (`sortTexts_eq_iff`).  For exemptions this works twice: the paths of each ID
are sorted, and then the IDs.  Entries are compared by their IDs only, which is not
enough to tell two entries apart in general; it is here, because no ID occurs
twice (`sorted_eq_of_mem_iff`).

Main result: two tables have the same sorted list exactly if they know the same IDs,
and for each ID the same paths up to their order (`sorted_eq_iff`).
-/
import BreakCheck.Proofs.Ledger

namespace BreakCheck

/-! ### Texts -/

theorem textLe_trans (a b c : String) (first : textLe a b = true) (second : textLe b c = true) :
    textLe a c = true := by
  simp only [textLe, decide_eq_true_eq] at *
  exact String.le_trans first second

/-- Any two texts can be put in order. -/
theorem textLe_total (a b : String) : (textLe a b || textLe b a) = true := by
  simpa [textLe] using String.le_total a b

/-- Two texts that come before each other are the same. -/
theorem textLe_antisymm {a b : String} (first : textLe a b = true) (second : textLe b a = true) :
    a = b := by
  simp only [textLe, decide_eq_true_eq] at *
  exact String.le_antisymm first second

theorem sortTexts_perm (texts : List String) : (sortTexts texts).Perm texts :=
  List.mergeSort_perm texts textLe

/-- Sorted texts are in order. -/
theorem pairwise_sortTexts (texts : List String) :
    (sortTexts texts).Pairwise fun a b => textLe a b = true :=
  List.pairwise_mergeSort textLe_trans textLe_total texts

/-- **Sorted texts** are equal exactly if the lists agree up to order. -/
theorem sortTexts_eq_iff (texts texts' : List String) :
    sortTexts texts = sortTexts texts' ↔ texts.Perm texts' := by
  constructor
  · intro same
    exact (sortTexts_perm texts).symm.trans (same ▸ sortTexts_perm texts')
  · intro perm
    refine List.Perm.eq_of_pairwise (fun _ _ _ _ => textLe_antisymm) (pairwise_sortTexts texts)
      (pairwise_sortTexts texts') ?_
    exact (sortTexts_perm texts).trans (perm.trans (sortTexts_perm texts').symm)

/-! ### Entries -/

/-- An entry with its paths sorted. -/
def Exemption.withSortedPaths (entry : Exemption) : Exemption :=
  { entry with paths := sortTexts entry.paths }

namespace Exemptions

/-- The entries with their paths sorted, in the order of declaration. -/
def tidy (table : Exemptions) : List Exemption := table.toList.map Exemption.withSortedPaths

/-- Sorting the paths leaves the IDs distinct. -/
theorem nodup_ids_tidy (table : Exemptions) : (table.tidy.map Exemption.id).Nodup := by
  have ids : table.tidy.map Exemption.id = table.toList.map Exemption.id := by
    rw [tidy, List.map_map]
    rfl
  rw [ids]
  exact table.nodup_ids

/-- Sorting changes the order of the entries, and no entry. -/
theorem sorted_perm (table : Exemptions) : table.sorted.Perm table.tidy :=
  List.mergeSort_perm table.tidy _

/-- Sorted entries are in the order of their IDs. -/
theorem pairwise_sorted (table : Exemptions) :
    table.sorted.Pairwise fun a b => textLe a.id b.id = true := by
  unfold sorted
  refine List.pairwise_mergeSort ?_ ?_ _
  · exact fun _ _ _ => textLe_trans _ _ _
  · exact fun _ _ => textLe_total _ _

/-- The entries are those IDs that are known, each with its paths in order. -/
theorem mem_tidy_iff (table : Exemptions) (id : String) (paths : List String) :
    { id, paths } ∈ table.tidy ↔ ∃ known, table.get? id = some known ∧ sortTexts known = paths := by
  rw [tidy, List.mem_map]
  constructor
  · rintro ⟨entry, held, same⟩
    cases same
    exact ⟨entry.paths, (table.get?_eq_some_iff _ _).2 held, rfl⟩
  · rintro ⟨known, found, rfl⟩
    exact ⟨_, (table.get?_eq_some_iff _ _).1 found, rfl⟩

/-- The sorted list is determined by which entries there are. -/
theorem sorted_eq_of_mem_iff {a b : Exemptions}
    (same : ∀ entry, entry ∈ a.tidy ↔ entry ∈ b.tidy) : a.sorted = b.sorted := by
  have tidy_perm : a.tidy.Perm b.tidy :=
    (List.perm_ext_iff_of_nodup a.nodup_ids_tidy.of_map b.nodup_ids_tidy.of_map).2 same
  refine List.Perm.eq_of_pairwise ?_ a.pairwise_sorted b.pairwise_sorted
    (a.sorted_perm.trans (tidy_perm.trans b.sorted_perm.symm))
  -- entries that stand in the same place by their IDs have the same ID, hence are one entry
  intro x y held held' first second
  have held := a.sorted_perm.mem_iff.1 held
  have held' := (same y).2 (b.sorted_perm.mem_iff.1 held')
  exact List.inj_on_of_nodup_map a.nodup_ids_tidy held held' (textLe_antisymm first second)

/-- What one table says of an ID, the other says up to the order of the paths. -/
theorem exists_get?_of_tidy_subset {a b : Exemptions} (sub : a.tidy ⊆ b.tidy) {id : String}
    {paths : List String} (found : a.get? id = some paths) :
    ∃ paths', b.get? id = some paths' ∧ paths.Perm paths' := by
  have held : { id, paths := sortTexts paths } ∈ b.tidy :=
    sub ((a.mem_tidy_iff _ _).2 ⟨paths, found, rfl⟩)
  obtain ⟨paths', found', same⟩ := (b.mem_tidy_iff _ _).1 held
  exact ⟨paths', found', (sortTexts_eq_iff paths paths').1 same.symm⟩

/-- Tables that know the same IDs, with the same paths up to their order, have the same entries.
-/
theorem tidy_subset_of_rel {a b : Exemptions}
    (agree : ∀ id, Option.Rel List.Perm (a.get? id) (b.get? id)) : a.tidy ⊆ b.tidy := by
  rintro ⟨id, paths⟩ held
  obtain ⟨known, found, rfl⟩ := (a.mem_tidy_iff _ _).1 held
  have agree := agree id
  rw [found] at agree
  -- the other table knows the ID, too, with the same paths in some order
  cases found' : b.get? id with
  | none => rw [found'] at agree; cases agree
  | some known' =>
    rw [found'] at agree
    cases agree with
    | some perm =>
      exact (b.mem_tidy_iff _ _).2 ⟨known', found', ((sortTexts_eq_iff _ _).2 perm).symm⟩

theorem rel_symm {a b : Exemptions}
    (agree : ∀ id, Option.Rel List.Perm (a.get? id) (b.get? id)) (id : String) :
    Option.Rel List.Perm (b.get? id) (a.get? id) := by
  have agree := agree id
  cases found : a.get? id <;> cases found' : b.get? id <;> rw [found, found'] at agree
  · exact .none
  · cases agree
  · cases agree
  · cases agree with
    | some perm => exact .some perm.symm

/-- **Sorted exemptions** are equal exactly if the tables know the same IDs, and for
each of them the same paths up to their order. -/
theorem sorted_eq_iff (a b : Exemptions) :
    a.sorted = b.sorted ↔ ∀ id, Option.Rel List.Perm (a.get? id) (b.get? id) := by
  constructor
  · intro same id
    have perm : a.tidy.Perm b.tidy := a.sorted_perm.symm.trans (same ▸ b.sorted_perm)
    cases found : a.get? id with
    | some paths =>
      obtain ⟨paths', found', perm'⟩ := exists_get?_of_tidy_subset perm.subset found
      rw [found']
      exact .some perm'
    | none =>
      cases found' : b.get? id with
      | none => exact .none
      | some paths' =>
        obtain ⟨paths, found'', -⟩ := exists_get?_of_tidy_subset perm.symm.subset found'
        rw [found] at found''
        cases found''
  · intro agree
    exact sorted_eq_of_mem_iff fun entry =>
      ⟨fun held => tidy_subset_of_rel agree held,
        fun held => tidy_subset_of_rel (rel_symm agree) held⟩

end Exemptions

end BreakCheck

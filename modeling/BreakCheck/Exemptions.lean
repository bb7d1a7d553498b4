/-
BreakCheck/Exemptions.lean

Rule and category IDs with the paths on which they are not enforced.

`Exemptions` is an association from IDs to path lists that remembers the order
in which the IDs were first declared: declaring an ID again replaces its paths
in place.  The entries stand in a row, and beside them the *slot* of every ID is
kept, so that an ID is found without a search.  That both agree is part of the
type (`slots_iff`).  Hence a slot never lies outside the row, no ID occurs twice
(`nodup_ids`), and the entries alone decide equality (`ext_entries`).

Other views of the same association: `byId` is the map without an order of
declaration, `sorted` the list sorted by ID with sorted paths.
-/
import BreakCheck.Log
import Std.Data.ExtTreeMap

namespace BreakCheck

/-- A rule or category ID together with the paths it is not enforced on. -/
structure Exemption where
  id : String := ""
  paths : List String := []
  deriving DecidableEq

/-- The order of texts by code points, as a test. -/
def textLe (a b : String) : Bool := decide (a ≤ b)

/-- The texts of a list in ascending order. -/
def sortTexts (texts : List String) : List String := texts.mergeSort textLe

/-- Exemptions in the order in which their IDs were first declared. -/
structure Exemptions where
  entries : Array Exemption := #[]
  /-- The position of every ID in the order of declaration. -/
  slots : Std.ExtTreeMap String Nat := ∅
  /-- **A slot belongs to one ID**: the slot of an ID is exactly the position that
  holds it. -/
  slots_iff : ∀ id slot,
    slots[id]? = some slot ↔ ∃ h : slot < entries.size, (entries[slot]).id = id := by simp

namespace Exemptions

/-! ### Looking up -/

/-- No exemptions. -/
def empty : Exemptions := {}

instance : Inhabited Exemptions := ⟨empty⟩

/-- How many IDs have been declared. -/
def size (table : Exemptions) : Nat := table.entries.size

/-- Whether no ID has been declared. -/
def isEmpty (table : Exemptions) : Bool := table.entries.isEmpty

/-- The exemptions in the order of declaration. -/
def toList (table : Exemptions) : List Exemption := table.entries.toList

/-- The position of an ID in the order of declaration, which lies within the row. -/
def slot? (table : Exemptions) (id : String) : Option (Fin table.entries.size) :=
  match found : table.slots[id]? with
  | some slot => some ⟨slot, ((table.slots_iff id slot).1 found).1⟩
  | none => none

/-- The paths declared for an ID. -/
def get? (table : Exemptions) (id : String) : Option (List String) :=
  (table.slot? id).map fun slot => table.entries[slot].paths

/-- The slot of an ID is the one whose entry has that ID. -/
theorem slot?_eq_some_iff (table : Exemptions) (id : String) (slot : Fin table.entries.size) :
    table.slot? id = some slot ↔ table.entries[slot].id = id := by
  unfold slot?
  split
  next found held =>
    rw [Option.some.injEq, Fin.ext_iff]
    constructor
    · rintro rfl
      exact ((table.slots_iff id slot).1 held).2
    · intro same
      have other := (table.slots_iff id slot).2 ⟨slot.isLt, same⟩
      exact Option.some.inj (held.symm.trans other)
  next absent =>
    refine iff_of_false (by simp) fun same => ?_
    exact Option.some_ne_none _ (((table.slots_iff id slot).2 ⟨slot.isLt, same⟩).symm.trans absent)

/-- An ID has no slot if no entry has that ID. -/
theorem slot?_eq_none_iff (table : Exemptions) (id : String) :
    table.slot? id = none ↔ ∀ slot : Fin table.entries.size, table.entries[slot].id ≠ id := by
  constructor
  · intro absent slot same
    exact Option.some_ne_none slot
      (((table.slot?_eq_some_iff id slot).2 same).symm.trans absent)
  · intro fresh
    cases found : table.slot? id with
    | none => rfl
    | some slot => exact absurd ((table.slot?_eq_some_iff id slot).1 found) (fresh slot)

/-- **No ID occurs twice.** -/
theorem nodup_ids (table : Exemptions) : (table.toList.map Exemption.id).Nodup := by
  rw [List.nodup_iff_pairwise_ne, List.pairwise_iff_getElem]
  intro i j hi hj apart same
  simp only [toList, List.length_map, Array.length_toList] at hi hj
  simp only [toList, List.getElem_map, Array.getElem_toList] at same
  have first := (table.slots_iff _ i).2 ⟨hi, same⟩
  have second := (table.slots_iff _ j).2 ⟨hj, rfl⟩
  exact Nat.ne_of_lt apart (Option.some.inj (first.symm.trans second))

/-! ### Equality -/

/-- **The entries alone decide equality**, for they determine the slots. -/
theorem ext_entries {a b : Exemptions} (same : a.entries = b.entries) : a = b := by
  obtain ⟨entries, slots, slots_iff⟩ := a
  obtain ⟨entries', slots', slots_iff'⟩ := b
  subst same
  have : slots = slots' := by
    refine Std.ExtTreeMap.ext_getElem? fun id => Option.ext fun slot => ?_
    exact (slots_iff id slot).trans (slots_iff' id slot).symm
  subst this
  rfl

/-- A table is determined by its entries in their order. -/
theorem toList_inj {a b : Exemptions} : a.toList = b.toList ↔ a = b :=
  ⟨fun same => ext_entries (Array.toList_inj.1 same), fun same => same ▸ rfl⟩

instance : DecidableEq Exemptions := fun a b =>
  decidable_of_iff (a.entries = b.entries) ⟨ext_entries, fun same => same ▸ rfl⟩

/-! ### Declaring -/

/-- Replace the paths at the slot of an ID. -/
def replace (table : Exemptions) (slot : Fin table.entries.size) (paths : List String) :
    Exemptions where
  entries := table.entries.set slot ⟨table.entries[slot].id, paths⟩
  slots := table.slots
  slots_iff id other := by
    rw [table.slots_iff]
    by_cases here : slot.val = other
    · subst here; simp
    · constructor
      · rintro ⟨h, held⟩
        exact ⟨by simpa using h, by rw [Array.getElem_set_ne _ h here]; exact held⟩
      · rintro ⟨h, held⟩
        rw [Array.size_set] at h
        exact ⟨h, by rw [Array.getElem_set_ne _ h here] at held; exact held⟩

/-- Add an ID that has not been declared. -/
def append (table : Exemptions) (entry : Exemption) (fresh : table.slot? entry.id = none) :
    Exemptions where
  entries := table.entries.push entry
  slots := table.slots.insert entry.id table.entries.size
  slots_iff id slot := by
    have absent := (table.slot?_eq_none_iff entry.id).1 fresh
    rw [Std.ExtTreeMap.getElem?_insert]
    split
    -- the new ID: its slot is the end of the row
    next same =>
      have same := Std.LawfulEqOrd.eq_of_compare same
      subst same
      constructor
      · rintro ⟨rfl⟩
        exact ⟨by simp, by simp⟩
      · rintro ⟨h, held⟩
        rw [Array.getElem_push] at held
        split at held
        next old => exact absurd held (absent ⟨slot, old⟩)
        next new =>
          rw [Array.size_push] at h
          have : table.entries.size = slot := by omega
          rw [this]
    -- any other ID: it is where it was
    next differ =>
      have differ : entry.id ≠ id := fun same => differ (by simp [same])
      rw [table.slots_iff]
      constructor
      · rintro ⟨h, held⟩
        exact ⟨by rw [Array.size_push]; omega, by rw [Array.getElem_push_lt h]; exact held⟩
      · rintro ⟨h, held⟩
        rw [Array.getElem_push] at held
        split at held
        next old => exact ⟨old, held⟩
        next new => exact absurd held differ

@[simp] theorem toList_replace (table : Exemptions) (slot : Fin table.entries.size)
    (paths : List String) :
    (table.replace slot paths).toList
      = table.toList.set slot ⟨(table.entries[slot]).id, paths⟩ := by
  simp [replace, toList]

@[simp] theorem toList_append (table : Exemptions) (entry : Exemption)
    (fresh : table.slot? entry.id = none) :
    (table.append entry fresh).toList = table.toList ++ [entry] := by
  simp [append, toList]

/-- Declare the paths of an ID.  A new ID goes to the end; the paths of a known
ID are replaced in place and returned. -/
def put (table : Exemptions) (id : String) (paths : List String) :
    Option (List String) × Exemptions :=
  match found : table.slot? id with
  | some slot => (some table.entries[slot].paths, table.replace slot paths)
  | none => (none, table.append { id, paths } found)

/-- Declare one exemption, with a notice if its ID has been declared before. -/
def declare (table : Exemptions) (entry : Exemption) : Logged Exemptions :=
  match table.put entry.id entry.paths with
  | (some _, table) => do
    Logged.note (.duplicateId entry.id)
    pure table
  | (none, table) => pure table

/-- Declare exemptions one after the other, starting from none. -/
def ofList (entries : List Exemption) : Logged Exemptions :=
  entries.foldlM declare empty

/-! ### Other views -/

/-- The paths by ID, without the order of declaration. -/
def byId (table : Exemptions) : Std.ExtTreeMap String (List String) :=
  Std.ExtTreeMap.ofList (table.toList.map fun entry => (entry.id, entry.paths))

/-- The exemptions of a map, declared in ascending order of their IDs. -/
def ofById (map : Std.ExtTreeMap String (List String)) : Logged Exemptions :=
  ofList (map.toList.map fun (id, paths) => { id, paths })

/-- The exemptions sorted by ID, each with its paths sorted. -/
def sorted (table : Exemptions) : List Exemption :=
  (table.toList.map fun entry => { entry with paths := sortTexts entry.paths }).mergeSort
    fun a b => textLe a.id b.id

end Exemptions

end BreakCheck

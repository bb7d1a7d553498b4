/-
BreakCheck/Proofs/Ledger.lean

Exemptions against a plain association list.

A `Ledger` is a list of exemptions and nothing else: no slots are kept, every
look-up is a search from the front, and putting an ID either replaces its paths
where it stands or adds it at the end.  `Exemptions` keep the slots beside the
row to avoid the search.  The results of this file say that nobody can tell the
two apart.

Design.  Everything that can be done with exemptions is a `Call`, and what comes
back is an `Answer`; both sides answer the same calls, one after the other.  The
step lemma (`call_agrees`) says that one call gives the same answer on both
sides and leaves the table with the entries of the ledger.  The run lemma
(`run_agrees_of_toList`) is the induction over calls.  Since the agreement of
slots and entries is part of the type, no invariant has to be carried along; it
is read off at the end.
-/
import BreakCheck.Exemptions
import Mathlib.Data.List.Nodup

namespace BreakCheck

/-! ### The ledger -/

/-- Exemptions as an association list. -/
abbrev Ledger := List Exemption

namespace Ledger

/-- The IDs of a ledger, in its order. -/
def ids (ledger : Ledger) : List String := ledger.map Exemption.id

/-- The paths of the first exemption with an ID. -/
def get? (ledger : Ledger) (id : String) : Option (List String) :=
  (ledger.find? fun entry => entry.id == id).map Exemption.paths

/-- Replace the paths of an ID where it stands and return the old ones, or add the
ID at the end. -/
def put (ledger : Ledger) (id : String) (paths : List String) :
    Option (List String) × Ledger :=
  match ledger.get? id with
  | some old => (some old, ledger.map fun entry => if entry.id = id then { id, paths } else entry)
  | none => (none, ledger ++ [{ id, paths }])

/-- Put exemptions one after the other, starting from none. -/
def ofList (entries : List Exemption) : Ledger :=
  entries.foldl (fun ledger entry => (put ledger entry.id entry.paths).2) []

/-- With distinct IDs, looking up an ID finds the one exemption that has it. -/
theorem get?_eq_some_iff {ledger : Ledger} (nodup : (ids ledger).Nodup) (id : String)
    (paths : List String) :
    get? ledger id = some paths ↔ { id, paths } ∈ ledger := by
  unfold get?
  rw [Option.map_eq_some_iff]
  constructor
  · rintro ⟨entry, found, rfl⟩
    have same : entry.id = id := by simpa using List.find?_some found
    subst same
    exact List.mem_of_find?_eq_some found
  · intro held
    have some_found : (ledger.find? fun entry => entry.id == id).isSome := by
      rw [List.find?_isSome]
      exact ⟨_, held, by simp⟩
    obtain ⟨entry, found⟩ := Option.isSome_iff_exists.1 some_found
    have same : entry.id = id := by simpa using List.find?_some found
    have : entry = { id, paths } :=
      List.inj_on_of_nodup_map nodup (List.mem_of_find?_eq_some found) held same
    exact ⟨entry, found, by rw [this]⟩

theorem get?_eq_none_iff (ledger : Ledger) (id : String) :
    get? ledger id = none ↔ id ∉ ids ledger := by
  simp [get?, ids]

/-- Of distinct IDs none stands in front of itself. -/
theorem not_mem_ids_of_nodup {ledger rest : Ledger} {entry : Exemption}
    (nodup : (ids (ledger ++ entry :: rest)).Nodup) : entry.id ∉ ids ledger := by
  intro known
  rw [ids, List.map_append, List.nodup_append] at nodup
  exact nodup.2.2 _ known _ (by simp) rfl

theorem put_of_not_mem {ledger : Ledger} {id : String} (fresh : id ∉ ids ledger)
    (paths : List String) : (put ledger id paths).2 = ledger ++ [⟨id, paths⟩] := by
  rw [put, (get?_eq_none_iff ledger id).2 fresh]

/-- Putting entries with distinct IDs one after the other adds each at the end. -/
theorem ofList_eq_self {entries : List Exemption} (nodup : (ids entries).Nodup) :
    ofList entries = entries := by
  -- a run that starts from any ledger without these IDs adds them to its end
  have aux : ∀ (more : List Exemption) (ledger : Ledger), (ids (ledger ++ more)).Nodup →
      more.foldl (fun ledger entry => (put ledger entry.id entry.paths).2) ledger
        = ledger ++ more := by
    intro more
    induction more with
    | nil => intro ledger _; simp
    | cons entry rest ih =>
      intro ledger nodup
      rw [List.foldl_cons, put_of_not_mem (not_mem_ids_of_nodup nodup),
        ih (ledger ++ [entry]) (by simpa [ids] using nodup)]
      simp
  exact aux entries [] nodup

end Ledger

/-! ### One operation on both sides -/

namespace Exemptions

theorem nodup_ids_toList (table : Exemptions) : (Ledger.ids table.toList).Nodup :=
  table.nodup_ids

/-- The paths of an ID are those of the exemption that has it. -/
theorem get?_eq_some_iff (table : Exemptions) (id : String) (paths : List String) :
    table.get? id = some paths ↔ { id, paths } ∈ table.toList := by
  rw [get?, Option.map_eq_some_iff, toList, Array.mem_toList_iff, Array.mem_iff_getElem]
  constructor
  · rintro ⟨slot, found, rfl⟩
    have same := (table.slot?_eq_some_iff id slot).1 found
    exact ⟨slot, slot.isLt, by rw [← same]; rfl⟩
  · rintro ⟨slot, inside, held⟩
    refine ⟨⟨slot, inside⟩, (table.slot?_eq_some_iff id _).2 ?_, ?_⟩
    · exact congrArg Exemption.id held
    · exact congrArg Exemption.paths held

theorem get?_eq_ledger (table : Exemptions) (id : String) :
    table.get? id = Ledger.get? table.toList id := by
  refine Option.ext fun paths => ?_
  rw [get?_eq_some_iff, Ledger.get?_eq_some_iff table.nodup_ids_toList]

/-- Replacing at the slot of an ID replaces wherever the ID stands. -/
theorem set_eq_map (table : Exemptions) {slot : Fin table.entries.size} {id : String}
    (found : table.slot? id = some slot) (paths : List String) :
    table.toList.set slot ⟨id, paths⟩
      = table.toList.map fun entry => if entry.id = id then ⟨id, paths⟩ else entry := by
  have here := (table.slot?_eq_some_iff id slot).1 found
  subst here
  refine List.ext_getElem (by simp) fun i inside _ => ?_
  have inside : i < table.entries.size := by simpa [toList] using inside
  simp only [List.getElem_set, List.getElem_map, toList, Array.getElem_toList]
  -- another slot belongs to another ID
  by_cases same : slot.val = i
  · subst same
    simp
  · have differ : table.entries[i].id ≠ (table.entries[slot]).id := by
      intro equal
      have first := (table.slot?_eq_some_iff _ ⟨i, inside⟩).2 equal
      exact same (congrArg Fin.val (Option.some.inj (found.symm.trans first)))
    rw [if_neg same, if_neg differ]

/-- **Putting** answers as the ledger does, and leaves the same entries. -/
theorem put_agrees (table : Exemptions) (id : String) (paths : List String) :
    (table.put id paths).1 = (Ledger.put table.toList id paths).1
      ∧ (table.put id paths).2.toList = (Ledger.put table.toList id paths).2 := by
  have lookup := table.get?_eq_ledger id
  unfold put Ledger.put
  split
  next slot found =>
    have same := (table.slot?_eq_some_iff id slot).1 found
    rw [get?, found] at lookup
    rw [← lookup]
    refine ⟨rfl, ?_⟩
    show (table.replace slot paths).toList = _
    rw [toList_replace, same, set_eq_map table found]
    rfl
  next absent =>
    rw [get?, absent] at lookup
    rw [← lookup]
    exact ⟨rfl, toList_append table { id, paths } absent⟩

/-- Declaring is putting, perhaps with a notice. -/
theorem value_declare (table : Exemptions) (entry : Exemption) :
    (table.declare entry).value = (table.put entry.id entry.paths).2 := by
  unfold declare
  split
  next old table' put => rw [put]; rfl
  next table' put => rw [put]; rfl

theorem toList_declare (table : Exemptions) (entry : Exemption) :
    (table.declare entry).value.toList = (Ledger.put table.toList entry.id entry.paths).2 := by
  rw [value_declare]
  exact (table.put_agrees entry.id entry.paths).2

/-- Declaring a list of exemptions builds the ledger of the same list. -/
theorem toList_ofList (entries : List Exemption) :
    (ofList entries).value.toList = Ledger.ofList entries := by
  -- the same from any table on, since the table grows along the list
  have aux : ∀ (more : List Exemption) (table : Exemptions),
      (more.foldlM declare table).value.toList
        = more.foldl (fun ledger entry => (Ledger.put ledger entry.id entry.paths).2)
          table.toList := by
    intro more
    induction more with
    | nil => intro table; rfl
    | cons entry rest ih =>
      intro table
      rw [List.foldlM_cons, Logged.value_bind, ih, toList_declare, List.foldl_cons]
  exact aux entries empty

/-- Exemptions with distinct IDs are kept just as they are declared. -/
theorem toList_ofList_of_nodup {entries : List Exemption} (nodup : (Ledger.ids entries).Nodup) :
    (ofList entries).value.toList = entries := by
  rw [toList_ofList, Ledger.ofList_eq_self nodup]

/-- A notice is issued for an ID that is known. -/
theorem notices_declare (table : Exemptions) (entry : Exemption) :
    (table.declare entry).notices
      = if (table.get? entry.id).isSome then [.duplicateId entry.id] else [] := by
  have same : (table.put entry.id entry.paths).1 = table.get? entry.id := by
    rw [(table.put_agrees _ _).1, get?_eq_ledger, Ledger.put]
    split
    next found => rw [found]
    next absent => rw [absent]
  unfold declare
  split
  next old _ put =>
    rw [put] at same
    rw [← same]
    rfl
  next put =>
    rw [put] at same
    rw [← same]
    rfl

/-- Distinct IDs are declared without any notice. -/
theorem notices_ofList_of_nodup {entries : List Exemption}
    (nodup : (Ledger.ids entries).Nodup) : (ofList entries).notices = [] := by
  have aux : ∀ (more : List Exemption) (table : Exemptions),
      (Ledger.ids (table.toList ++ more)).Nodup → (more.foldlM declare table).notices = [] := by
    intro more
    induction more with
    | nil => intro table _; rfl
    | cons entry rest ih =>
      intro table nodup
      have fresh := Ledger.not_mem_ids_of_nodup nodup
      have unknown : table.get? entry.id = none := by
        rw [get?_eq_ledger, (Ledger.get?_eq_none_iff _ _).2 fresh]
      have added : (table.declare entry).value.toList = table.toList ++ [entry] := by
        rw [toList_declare, Ledger.put_of_not_mem fresh]
      rw [List.foldlM_cons, Logged.notices_bind, notices_declare, unknown, ih]
      · rfl
      · rw [added]
        simpa using nodup
  exact aux entries empty nodup

/-- Distinct IDs are declared without more ado. -/
theorem ofList_eq_pure {entries : List Exemption} (nodup : (Ledger.ids entries).Nodup) :
    ofList entries = pure (ofList entries).value :=
  congrArg (Logged.mk _) (notices_ofList_of_nodup nodup)

/-- **Exemptions are rebuilt** from their list. -/
theorem ofList_toList (table : Exemptions) : ofList table.toList = pure table := by
  rw [ofList_eq_pure table.nodup_ids_toList]
  apply congrArg
  exact toList_inj.1 (toList_ofList_of_nodup table.nodup_ids_toList)

/-- The map of a table finds what the ledger finds. -/
theorem getElem?_byId (table : Exemptions) (id : String) :
    table.byId[id]? = Ledger.get? table.toList id := by
  have distinct : (table.toList.map fun entry => (entry.id, entry.paths)).Pairwise
      fun a b => ¬ compare a.1 b.1 = .eq := by
    rw [List.pairwise_map]
    have nodup := table.nodup_ids
    rw [List.nodup_iff_pairwise_ne, List.pairwise_map] at nodup
    exact nodup.imp fun differ equal => differ (Std.LawfulEqOrd.eq_of_compare equal)
  cases found : Ledger.get? table.toList id with
  | some paths =>
    have held := (Ledger.get?_eq_some_iff table.nodup_ids_toList id paths).1 found
    exact Std.ExtTreeMap.getElem?_ofList_of_mem (by simp) distinct
      (List.mem_map.2 ⟨_, held, rfl⟩)
  | none =>
    have unknown := (Ledger.get?_eq_none_iff table.toList id).1 found
    refine Std.ExtTreeMap.getElem?_ofList_of_contains_eq_false ?_
    simpa [Ledger.ids] using unknown

/-- The IDs of a map are distinct. -/
theorem nodup_ids_map (map : Std.ExtTreeMap String (List String)) :
    (Ledger.ids (map.toList.map fun (id, paths) => { id, paths })).Nodup := by
  rw [Ledger.ids, List.map_map, List.nodup_iff_pairwise_ne, List.pairwise_map]
  exact map.distinct_keys_toList.imp fun differ equal => differ (by simp_all)

/-! ### Runs -/

/-- Everything that can be done with exemptions. -/
inductive Call
  /-- Begin again with none. -/
  | empty
  /-- Begin again with a list of exemptions. -/
  | ofList (entries : List Exemption)
  /-- Begin again with a list of pairs. -/
  | ofPairs (pairs : List (String × List String))
  /-- Begin again with the exemptions of a map. -/
  | ofById (map : Std.ExtTreeMap String (List String))
  | put (id : String) (paths : List String)
  | get (id : String)
  | size
  | isEmpty
  | toList
  | byId

/-- What comes back from a call.  A map is known by what it finds. -/
inductive Answer
  | done
  | previous (paths : Option (List String))
  | found (paths : Option (List String))
  | size (count : Nat)
  | isEmpty (value : Bool)
  | entries (entries : List Exemption)
  | byId (lookup : String → Option (List String))

/-- The answer to a call, and the exemptions after it. -/
def call (table : Exemptions) : Call → Answer × Exemptions
  | .empty => (.done, empty)
  | .ofList entries => (.done, (ofList entries).value)
  | .ofPairs pairs => (.done, (ofList (pairs.map fun (id, paths) => { id, paths })).value)
  | .ofById map => (.done, (ofById map).value)
  | .put id paths => (.previous (table.put id paths).1, (table.put id paths).2)
  | .get id => (.found (table.get? id), table)
  | .size => (.size table.size, table)
  | .isEmpty => (.isEmpty table.isEmpty, table)
  | .toList => (.entries table.toList, table)
  | .byId => (.byId fun id => table.byId[id]?, table)

/-- The answers to calls, one after the other, and the exemptions after the last one. -/
def run (table : Exemptions) : List Call → List Answer × Exemptions
  | [] => ([], table)
  | first :: rest =>
    let (answer, table) := table.call first
    let (answers, table) := table.run rest
    (answer :: answers, table)

end Exemptions

open Exemptions (Call Answer)

/-- The answer of a ledger to a call, and the ledger after it. -/
def Ledger.call (ledger : Ledger) : Call → Answer × Ledger
  | .empty => (.done, [])
  | .ofList entries => (.done, ofList entries)
  | .ofPairs pairs => (.done, ofList (pairs.map fun (id, paths) => { id, paths }))
  | .ofById map => (.done, map.toList.map fun (id, paths) => { id, paths })
  | .put id paths => (.previous (put ledger id paths).1, (put ledger id paths).2)
  | .get id => (.found (get? ledger id), ledger)
  | .size => (.size ledger.length, ledger)
  | .isEmpty => (.isEmpty ledger.isEmpty, ledger)
  | .toList => (.entries ledger, ledger)
  | .byId => (.byId (get? ledger), ledger)

/-- The answers of a ledger to calls, one after the other, and the ledger after the
last one. -/
def Ledger.run (ledger : Ledger) : List Call → List Answer × Ledger
  | [] => ([], ledger)
  | first :: rest =>
    let (answer, ledger) := Ledger.call ledger first
    let (answers, ledger) := Ledger.run ledger rest
    (answer :: answers, ledger)

namespace Exemptions

/-- **One call** gives the same answer on both sides and leaves the same entries. -/
theorem call_agrees (table : Exemptions) (which : Call) :
    (table.call which).1 = (Ledger.call table.toList which).1
      ∧ (table.call which).2.toList = (Ledger.call table.toList which).2 := by
  cases which with
  | empty => exact ⟨rfl, rfl⟩
  | ofList entries => exact ⟨rfl, toList_ofList entries⟩
  | ofPairs pairs => exact ⟨rfl, toList_ofList _⟩
  | ofById map => exact ⟨rfl, toList_ofList_of_nodup (nodup_ids_map map)⟩
  | put id paths =>
    obtain ⟨same, left⟩ := table.put_agrees id paths
    exact ⟨congrArg Answer.previous same, left⟩
  | get id => exact ⟨congrArg Answer.found (table.get?_eq_ledger id), rfl⟩
  | size => exact ⟨by simp [call, Ledger.call, size, toList], rfl⟩
  | isEmpty => exact ⟨by simp [call, Ledger.call, isEmpty, toList], rfl⟩
  | toList => exact ⟨rfl, rfl⟩
  | byId => exact ⟨congrArg Answer.byId (funext table.getElem?_byId), rfl⟩

/-- **A run** gives the same answers on both sides and leaves the same entries. -/
theorem run_agrees_of_toList (calls : List Call) (table : Exemptions) :
    (table.run calls).1 = (Ledger.run table.toList calls).1
      ∧ (table.run calls).2.toList = (Ledger.run table.toList calls).2 := by
  induction calls generalizing table with
  | nil => exact ⟨rfl, rfl⟩
  | cons first rest ih =>
    obtain ⟨same, left⟩ := table.call_agrees first
    obtain ⟨sames, lefts⟩ := ih (table.call first).2
    rw [left] at sames lefts
    exact ⟨congrArg₂ List.cons same sames, lefts⟩

/-- **Nobody can tell exemptions from a ledger.**  After any calls the answers have
been those of the ledger, the entries are its entries, no ID occurs twice, and the
slot of an ID is the place where it stands.  What follows depends on the entries
only, whatever the calls that led to them. -/
theorem run_agrees (calls : List Call) :
    (empty.run calls).1 = (Ledger.run [] calls).1
      ∧ (empty.run calls).2.toList = (Ledger.run [] calls).2
      ∧ (Ledger.ids (empty.run calls).2.toList).Nodup
      ∧ (∀ id slot, (empty.run calls).2.slots[id]? = some slot
          ↔ ∃ h : slot < (empty.run calls).2.entries.size,
              ((empty.run calls).2.entries[slot]).id = id)
      ∧ ∀ calls' more, (empty.run calls').2.entries = (empty.run calls).2.entries →
          (empty.run calls').2.run more = (empty.run calls).2.run more := by
  obtain ⟨answers, entries⟩ := run_agrees_of_toList calls empty
  refine ⟨answers, entries, nodup_ids_toList _, (empty.run calls).2.slots_iff, ?_⟩
  intro calls' more same
  rw [ext_entries same]

end Exemptions

end BreakCheck

/-
BreakCheck/Proofs/Ledger/Folded.lean

What is left of a list of exemptions when repeated IDs are folded together.

Folding goes along the list: an ID that is declared again keeps its place and loses
the paths it had.  `Ledger.folded` says the outcome without going along the list:

    every ID once, in the order of first declarations, with the paths of its last one.

Design.  A ledger without repeated IDs is determined by the order of its IDs and by
what is found under each of them (`ext_get?`), so these two are followed separately
(`ids_ofList`, `get?_ofList`).  Both inductions take the list from the back, where the
exemption stands that is put last.
-/
import BreakCheck.Proofs.Ledger
import Mathlib.Data.List.Induction

namespace BreakCheck

namespace Ledger

/-! ### What a list declares -/

/-- The paths of the last exemption with an ID. -/
def lastPaths? (entries : List Exemption) (id : String) : Option (List String) :=
  get? entries.reverse id

/-- Every ID once, where it is first declared, with the paths declared for it last. -/
def folded (entries : List Exemption) : Ledger :=
  (ids entries).eraseDups.map fun id => ⟨id, (lastPaths? entries id).getD []⟩

/-- The front of a ledger is asked first. -/
theorem get?_append (front back : Ledger) (id : String) :
    get? (front ++ back) id = (get? front id).or (get? back id) := by
  rw [get?, List.find?_append, Option.map_or]
  rfl

theorem get?_cons (entry : Exemption) (rest : Ledger) (id : String) :
    get? (entry :: rest) id = if entry.id = id then some entry.paths else get? rest id := by
  by_cases same : entry.id = id <;> simp [get?, same]

theorem lastPaths?_concat (entries : List Exemption) (entry : Exemption) (id : String) :
    lastPaths? (entries ++ [entry]) id
      = if entry.id = id then some entry.paths else lastPaths? entries id := by
  rw [lastPaths?, List.reverse_concat, get?_cons]
  rfl

/-- No paths are declared for just those IDs that do not occur. -/
theorem lastPaths?_eq_none_iff (entries : List Exemption) (id : String) :
    lastPaths? entries id = none ↔ id ∉ ids entries := by
  rw [lastPaths?, get?_eq_none_iff, ids, List.map_reverse, List.mem_reverse]
  rfl

/-! ### What putting does -/

/-- A new ID goes to the end, and a known one keeps its place. -/
theorem ids_put (ledger : Ledger) (id : String) (paths : List String) :
    ids (put ledger id paths).2
      = if id ∈ ids ledger then ids ledger else ids ledger ++ [id] := by
  unfold put
  split
  next old found =>
    have known : id ∈ ids ledger := by
      by_contra fresh
      rw [(get?_eq_none_iff ledger id).2 fresh] at found
      cases found
    rw [if_pos known, ids, ids, List.map_map]
    apply List.map_congr_left
    intro entry _
    show (if entry.id = id then (⟨id, paths⟩ : Exemption) else entry).id = entry.id
    split
    next same => exact same.symm
    next => rfl
  next absent =>
    rw [if_neg ((get?_eq_none_iff ledger id).1 absent), ids, List.map_append]
    rfl

/-- Replacing paths is seen under their ID only. -/
theorem get?_map_replace (ledger : Ledger) (id name : String) (paths : List String) :
    get? (ledger.map fun entry => if entry.id = id then ⟨id, paths⟩ else entry) name
      = if id = name then (get? ledger name).map fun _ => paths else get? ledger name := by
  induction ledger with
  | nil => split <;> rfl
  | cons entry rest ih =>
    rw [List.map_cons, get?_cons, get?_cons, ih]
    by_cases here : entry.id = id
    · subst here
      by_cases same : entry.id = name <;> simp [same]
    · by_cases same : id = name
      · subst same
        simp [here]
      · simp [here, same]

/-- What is put in is found under its ID, and everything else stays. -/
theorem get?_put (ledger : Ledger) (id name : String) (paths : List String) :
    get? (put ledger id paths).2 name = if id = name then some paths else get? ledger name := by
  unfold put
  split
  next old found =>
    show get? (ledger.map _) name = _
    rw [get?_map_replace]
    by_cases same : id = name
    · subst same
      rw [if_pos rfl, if_pos rfl, found]
      rfl
    · rw [if_neg same, if_neg same]
  next absent =>
    show get? (ledger ++ [⟨id, paths⟩]) name = _
    rw [get?_append, get?_cons]
    by_cases same : id = name
    · subst same
      rw [if_pos rfl, if_pos rfl, absent]
      rfl
    · rw [if_neg same, if_neg same]
      exact Option.or_none

/-! ### What folding leaves -/

theorem ofList_concat (entries : List Exemption) (entry : Exemption) :
    ofList (entries ++ [entry]) = (put (ofList entries) entry.id entry.paths).2 := by
  rw [ofList, List.foldl_append]
  rfl

theorem ids_concat (entries : List Exemption) (entry : Exemption) :
    ids (entries ++ [entry]) = ids entries ++ [entry.id] := List.map_append

/-- One name more is new or it is not. -/
theorem eraseDups_concat (names : List String) (name : String) :
    (names ++ [name]).eraseDups
      = if name ∈ names then names.eraseDups else names.eraseDups ++ [name] := by
  rw [List.eraseDups_append]
  by_cases known : name ∈ names
  · have nothing : [name].removeAll names = [] := by simp [List.removeAll, known]
    rw [if_pos known, nothing]
    exact List.append_nil _
  · have fresh : [name].removeAll names = [name] := by simp [List.removeAll, known]
    rw [if_neg known, fresh]
    rfl

/-- **IDs** keep the place of their first declaration. -/
theorem ids_ofList (entries : List Exemption) :
    ids (ofList entries) = (ids entries).eraseDups := by
  induction entries using List.reverseRecOn with
  | nil => rfl
  | append_singleton entries entry ih =>
    rw [ofList_concat, ids_put, ih, ids_concat, eraseDups_concat]
    simp only [List.mem_eraseDups]

/-- **Paths** are those of the last declaration. -/
theorem get?_ofList (entries : List Exemption) (id : String) :
    get? (ofList entries) id = lastPaths? entries id := by
  induction entries using List.reverseRecOn with
  | nil => rfl
  | append_singleton entries entry ih =>
    rw [ofList_concat, get?_put, ih, lastPaths?_concat]

/-- No ID stands twice in a ledger that has been filled entry by entry. -/
theorem nodup_ids_ofList (entries : List Exemption) : (ids (ofList entries)).Nodup := by
  rw [← Exemptions.toList_ofList]
  exact Exemptions.nodup_ids_toList _

/-- A ledger is its IDs with what is found under each. -/
theorem eq_map_get? {ledger : Ledger} (nodup : (ids ledger).Nodup) :
    ledger = (ids ledger).map fun id => ⟨id, (get? ledger id).getD []⟩ := by
  rw [ids, List.map_map]
  conv => lhs; rw [← List.map_id ledger]
  apply List.map_congr_left
  rintro ⟨id, paths⟩ held
  show _ = (⟨id, (get? ledger id).getD []⟩ : Exemption)
  rw [(get?_eq_some_iff nodup id paths).2 held]
  rfl

/-- **Ledgers are told apart** by the order of their IDs and by what is found. -/
theorem ext_get? {ledger ledger' : Ledger} (nodup : (ids ledger).Nodup)
    (nodup' : (ids ledger').Nodup) (order : ids ledger = ids ledger')
    (found : ∀ id, get? ledger id = get? ledger' id) : ledger = ledger' := by
  rw [eq_map_get? nodup, eq_map_get? nodup', order]
  apply List.map_congr_left
  intro id _
  rw [found]

/-- **Folding** leaves every ID where it is first declared, with the paths that are
declared for it last. -/
theorem ofList_eq_folded (entries : List Exemption) : ofList entries = folded entries := by
  rw [eq_map_get? (nodup_ids_ofList entries), ids_ofList, folded]
  apply List.map_congr_left
  intro id _
  rw [get?_ofList]

end Ledger

theorem Exemptions.toList_ofList_eq_folded (entries : List Exemption) :
    (ofList entries).value.toList = Ledger.folded entries := by
  rw [toList_ofList, Ledger.ofList_eq_folded]

end BreakCheck

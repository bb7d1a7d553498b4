/-
BreakCheck/Proofs/IgnoreOnly/Cleared.lean

Pairs without paths, left out before or after repeated IDs are folded together.

Writing leaves out the pairs without paths as they stand, one by one, and only what is
read back is folded.  A pair without paths can do two things that get lost that way.
Behind a pair with the same ID it *clears* the paths declared there; in front of one it
reserves an earlier place for the ID.  `WrittenInFull` says of a list of pairs that
neither happens in it, and this is exactly when the order of the two steps does not
matter (`ofList_kept_eq_iff`).

Under each ID, what is found of the kept pairs is the last declaration with paths; so
nothing but clearing can change what is found (`lastPaths?_kept`), and the rest is a
matter of places.
-/
import BreakCheck.Proofs.IgnoreOnly.Kept
import BreakCheck.Proofs.Ledger.Folded

namespace BreakCheck

namespace Ledger

/-! ### Ledgers without the IDs that have no paths -/

theorem get?_kept {ledger : Ledger} (nodup : (ids ledger).Nodup) (id : String) :
    get? (IgnoreOnly.kept ledger) id
      = (get? ledger id).filter fun paths => !paths.isEmpty := by
  apply Option.ext
  intro paths
  rw [get?_eq_some_iff (IgnoreOnly.nodup_ids_kept nodup), IgnoreOnly.kept, List.mem_filter,
    Option.filter_eq_some_iff, get?_eq_some_iff nodup]
  rfl

/-- The IDs that are kept stand in the order in which they stood. -/
theorem ids_kept {ledger : Ledger} (nodup : (ids ledger).Nodup) :
    ids (IgnoreOnly.kept ledger)
      = (ids ledger).filter fun id => id ∈ ids (IgnoreOnly.kept ledger) := by
  have has (entry : Exemption) (held : entry ∈ ledger) :
      entry.hasPaths = decide (entry.id ∈ ids (IgnoreOnly.kept ledger)) := by
    have found := (get?_eq_some_iff nodup entry.id entry.paths).2 held
    have known := not_congr (get?_eq_none_iff (IgnoreOnly.kept ledger) entry.id)
    rw [get?_kept nodup, found, not_not] at known
    rw [Bool.eq_iff_iff, decide_eq_true_iff, ← known]
    cases paths : entry.paths <;> simp [Exemption.hasPaths, paths, Option.filter]
  show (ledger.filter _).map _ = (ledger.map _).filter _
  rw [List.filter_map]
  exact congrArg (List.map Exemption.id) (List.filter_congr has)

end Ledger

namespace IgnoreOnly

open Ledger (get?_kept get?_ofList ids ids_kept ids_ofList lastPaths? lastPaths?_concat
  lastPaths?_eq_none_iff nodup_ids_ofList)

/-! ### What is found of the pairs that are kept -/

theorem kept_concat (declared : List Exemption) (entry : Exemption) :
    kept (declared ++ [entry])
      = if entry.hasPaths then kept declared ++ [entry] else kept declared := by
  rw [kept, List.filter_append]
  show kept declared ++ kept [entry] = _
  rw [kept_cons]
  split
  next => rfl
  next => exact List.append_nil _

/-- An ID whose last declaration has paths keeps these. -/
theorem lastPaths?_kept_of_cons {declared : List Exemption} {id path : String}
    {rest : List String} (last : lastPaths? declared id = some (path :: rest)) :
    lastPaths? (kept declared) id = some (path :: rest) := by
  induction declared using List.reverseRecOn with
  | nil => cases last
  | append_singleton declared entry ih =>
    rw [lastPaths?_concat] at last
    rw [kept_concat]
    by_cases same : entry.id = id
    · rw [if_pos same, Option.some.injEq] at last
      have has : entry.hasPaths = true := by simp [Exemption.hasPaths, last]
      rw [if_pos has, lastPaths?_concat, if_pos same, last]
    -- a pair with another ID changes nothing, whether it is kept or not
    · rw [if_neg same] at last
      split
      next => rw [lastPaths?_concat, if_neg same, ih last]
      next => exact ih last

/-- Neither is any ID cleared, nor is an earlier place reserved for one. -/
structure WrittenInFull (declared : List Exemption) : Prop where
  /-- An ID that is declared without paths in the end has never had any. -/
  notCleared : ∀ id, lastPaths? declared id = some [] → id ∉ ids (kept declared)
  /-- The IDs are given paths in the order in which they are declared at all. -/
  inOrder : (ids (kept declared)).eraseDups
    = (ids declared).eraseDups.filter fun id => id ∈ ids (kept declared)

/-- **What is found** is kept if no ID is cleared. -/
theorem lastPaths?_kept {declared : List Exemption}
    (notCleared : ∀ id, lastPaths? declared id = some [] → id ∉ ids (kept declared))
    (id : String) :
    lastPaths? (kept declared) id
      = (lastPaths? declared id).filter fun paths => !paths.isEmpty := by
  cases last : lastPaths? declared id with
  | none =>
    have absent : id ∉ ids declared := (lastPaths?_eq_none_iff declared id).1 last
    apply (lastPaths?_eq_none_iff (kept declared) id).2
    intro known
    exact absent ((List.filter_sublist.map Exemption.id).subset known)
  | some paths =>
    cases paths with
    | nil => exact (lastPaths?_eq_none_iff (kept declared) id).2 (notCleared id last)
    | cons path rest => exact lastPaths?_kept_of_cons last

/-! ### The order of the two steps -/

/-- **Folding what is kept is keeping what is folded** exactly if the pairs are written
in full. -/
theorem ofList_kept_eq_iff (declared : List Exemption) :
    Ledger.ofList (kept declared) = kept (Ledger.ofList declared) ↔ WrittenInFull declared := by
  have nodup := nodup_ids_ofList declared
  constructor
  · intro same
    have found (id : String) : lastPaths? (kept declared) id
        = (lastPaths? declared id).filter fun paths => !paths.isEmpty := by
      rw [← get?_ofList, same, get?_kept nodup, get?_ofList]
    constructor
    · intro id last
      rw [← lastPaths?_eq_none_iff, found, last]
      rfl
    · calc (ids (kept declared)).eraseDups
          = ids (kept (Ledger.ofList declared)) := by rw [← ids_ofList, same]
        _ = (ids (Ledger.ofList declared)).filter
              fun id => id ∈ ids (kept (Ledger.ofList declared)) := ids_kept nodup
        _ = (ids declared).eraseDups.filter fun id => id ∈ ids (kept declared) := by
            rw [ids_ofList, ← same, ids_ofList]
            simp only [List.mem_eraseDups]
  · rintro ⟨notCleared, inOrder⟩
    have found := lastPaths?_kept notCleared
    -- the same IDs are kept on both sides
    have known (id : String) :
        id ∈ ids (kept declared) ↔ id ∈ ids (kept (Ledger.ofList declared)) := by
      rw [← not_iff_not, ← lastPaths?_eq_none_iff, ← Ledger.get?_eq_none_iff, get?_kept nodup,
        get?_ofList, found]
    apply Ledger.ext_get? (nodup_ids_ofList _) (nodup_ids_kept nodup)
    · calc ids (Ledger.ofList (kept declared))
          = (ids (kept declared)).eraseDups := ids_ofList _
        _ = (ids declared).eraseDups.filter fun id => id ∈ ids (kept declared) := inOrder
        _ = (ids (Ledger.ofList declared)).filter
              fun id => id ∈ ids (kept (Ledger.ofList declared)) := by
            rw [ids_ofList]
            simp only [known]
        _ = ids (kept (Ledger.ofList declared)) := (ids_kept nodup).symm
    · intro id
      rw [get?_ofList, get?_kept nodup, get?_ofList, found]

end IgnoreOnly

end BreakCheck

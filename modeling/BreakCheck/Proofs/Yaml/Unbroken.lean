/-
BreakCheck/Proofs/Yaml/Unbroken.lean

A tree breaks off only where a fault is recorded.

The functions of the grammar put a `cut` into a tree and record a fault in one step, and
behind a fault they stop.  So what they return without a fault has all its parts
(`MakesWhole`).  It need not be said that no fault was there before: none of them takes one
back.

Main result: the tree of a document without any fault is whole (`isWhole_root`).
-/
import BreakCheck.Proofs.Yaml.Whole

namespace BreakCheck.Yaml

namespace Progress

variable {fuel : Nat}

/-! ### Single steps -/

/-- What has been made has all its parts, unless a fault has been recorded. -/
def Sound (made : Bool) (p : Progress) : Prop := p.fault = none → made = true

/-- What is whole is sound, whatever has been recorded. -/
theorem Sound.of_whole {made : Bool} {p : Progress} (whole : made = true) : Sound made p :=
  fun _ => whole

/-- Where a fault is recorded, nothing has to be whole. -/
theorem Sound.of_fail {made : Bool} {p : Progress} {fault : Fault} : Sound made (p.fail fault) :=
  fun none => nomatch none

/-- Keeping a node under a name records no fault and takes none back. -/
theorem Sound.keep {made : Bool} {p : Progress} (sound : Sound made p)
    (named : Option (Nat × Nat)) (tree : Tree) : Sound made (p.keep named tree).2 := by
  cases named <;> exact sound

/-- If the text has broken off, nothing has to be whole. -/
theorem Sound.of_isOver {made : Bool} {p : Progress} (broken : p.isOver = true) :
    Sound made p := by
  intro none
  rw [isOver, none] at broken
  cases broken

/-- What is sound is whole as long as the text has not broken off. -/
theorem Sound.whole {made : Bool} {p : Progress} (sound : Sound made p)
    (unbroken : ¬ p.isOver = true) : made = true := by
  refine sound ?_
  rwa [isOver, Bool.not_eq_true, Option.isSome_eq_false_iff, Option.isNone_iff_eq_none] at unbroken

@[simp] theorem keep_fst (p : Progress) (named : Option (Nat × Nat)) (tree : Tree) :
    (p.keep named tree).1 = tree := by
  cases named <;> rfl

/-- In the place of a node that is missing stands an empty plain scalar with its tag. -/
@[simp] theorem missing_fst (p : Progress) (anchor : Option String) (tag : Option Tag) :
    (p.missing anchor tag).1 = .scalar .plain tag "" := keep_fst _ _ _

/-! ### The functions of the grammar -/

/-- **What the functions of the grammar return is whole**, with some fuel. -/
structure MakesWhole (fuel : Nat) : Prop where
  node : ∀ place p, Sound (node place fuel p).1.isWhole (node place fuel p).2
  nodeUnless : ∀ ends place p,
    Sound (nodeUnless ends place fuel p).1.isWhole (nodeUnless ends place fuel p).2
  blockItems : ∀ p, Sound (Tree.allWhole (blockItems fuel p).1) (blockItems fuel p).2
  levelItems : ∀ p, Sound (Tree.allWhole (levelItems fuel p).1) (levelItems fuel p).2
  blockEntries : ∀ p,
    Sound (Tree.allEntriesWhole (blockEntries fuel p).1) (blockEntries fuel p).2
  blockValue : ∀ key p, key.isWhole = true →
    Sound (Tree.allEntriesWhole (blockValue key fuel p).1) (blockValue key fuel p).2
  flowItems : ∀ first p,
    Sound (Tree.allWhole (flowItems first fuel p).1) (flowItems first fuel p).2
  flowPair : ∀ p, Sound (flowPair fuel p).1.isWhole (flowPair fuel p).2
  flowEntries : ∀ first p,
    Sound (Tree.allEntriesWhole (flowEntries first fuel p).1) (flowEntries first fuel p).2

namespace MakesWhole

/-- Items behind a whole one. -/
theorem cons {item : Tree} {items : List Tree × Progress} (whole : item.isWhole = true)
    (others : Sound (Tree.allWhole items.1) items.2) :
    Sound (Tree.allWhole (item :: items.1)) items.2 := by
  intro none
  rw [Tree.allWhole, whole, others none]
  rfl

/-- Entries behind a whole one. -/
theorem consEntry {key value : Tree} {entries : List (Tree × Tree) × Progress}
    (whole : key.isWhole = true) (whole' : value.isWhole = true)
    (others : Sound (Tree.allEntriesWhole entries.1) entries.2) :
    Sound (Tree.allEntriesWhole ((key, value) :: entries.1)) entries.2 := by
  intro none
  rw [Tree.allEntriesWhole, whole, whole', others none]
  rfl

/-- **A node is whole** if no fault is recorded: a scalar is, a collection is if what stands in
it is, and every other way out records a fault. -/
theorem node_succ (all : MakesWhole fuel) (place : Place) (p : Progress) :
    Sound (Progress.node place (fuel + 1) p).1.isWhole (Progress.node place (fuel + 1) p).2 := by
  unfold Progress.node
  split
  · split
    · exact .of_whole rfl
    · exact .of_fail
  · generalize p.properties = found
    obtain ⟨found, p⟩ := found
    dsimp only
    split
    · exact .of_fail
    -- a node that cannot begin here may be missing
    · have missing tag : Sound (p.missing found.anchor tag).1.isWhole
          (p.missing found.anchor tag).2 := .of_whole (by rw [missing_fst]; rfl)
      split
      · exact .of_whole (by rw [keep_fst]; rfl)
      · rw [keep_fst]
        exact (all.flowItems _ _).keep _ _
      · rw [keep_fst]
        exact (all.flowEntries _ _).keep _ _
      · split
        · rw [keep_fst]
          exact (all.levelItems _).keep _ _
        · split
          · exact missing _
          · exact .of_fail
      · split
        · rw [keep_fst]
          exact (all.blockItems _).keep _ _
        · split
          · exact missing _
          · exact .of_fail
      · split
        · rw [keep_fst]
          exact (all.blockEntries _).keep _ _
        · split
          · exact missing _
          · exact .of_fail
      · exact .of_fail
      · split
        · exact missing _
        · exact .of_fail

/-- A node that may be missing is whole, for an empty scalar is. -/
theorem nodeUnless_succ (all : MakesWhole fuel) (ends : List Token) (place : Place)
    (p : Progress) :
    Sound (Progress.nodeUnless ends place (fuel + 1) p).1.isWhole
      (Progress.nodeUnless ends place (fuel + 1) p).2 := by
  unfold Progress.nodeUnless
  split
  · exact all.node _ _
  · exact .of_whole (by rw [missing_fst]; rfl)

/-- The items of a block sequence are whole: the first one is, or they stop behind it. -/
theorem blockItems_succ (all : MakesWhole fuel) (p : Progress) :
    Sound (Tree.allWhole (Progress.blockItems (fuel + 1) p).1)
      (Progress.blockItems (fuel + 1) p).2 := by
  unfold Progress.blockItems
  split
  · have item := all.nodeUnless [.blockEntry, .blockEnd] .item p.skip
    dsimp only
    split
    next broken => exact .of_isOver broken
    next unbroken => exact cons (item.whole unbroken) (all.blockItems _)
  · exact .of_whole rfl
  · exact .of_fail

/-- The items of a sequence that is not indented are whole, or they stop behind the one that is
not. -/
theorem levelItems_succ (all : MakesWhole fuel) (p : Progress) :
    Sound (Tree.allWhole (Progress.levelItems (fuel + 1) p).1)
      (Progress.levelItems (fuel + 1) p).2 := by
  unfold Progress.levelItems
  split
  · have item := all.nodeUnless [.blockEntry, .key, .value, .blockEnd] .item p.skip
    dsimp only
    split
    next broken => exact .of_isOver broken
    next unbroken => exact cons (item.whole unbroken) (all.levelItems _)
  · exact .of_fail
  · exact .of_whole rfl

/-- The entries of a block mapping are whole, or they stop behind the key that is not. -/
theorem blockEntries_succ (all : MakesWhole fuel) (p : Progress) :
    Sound (Tree.allEntriesWhole (Progress.blockEntries (fuel + 1) p).1)
      (Progress.blockEntries (fuel + 1) p).2 := by
  unfold Progress.blockEntries
  split
  · have key := all.nodeUnless [.key, .value, .blockEnd] .entry p.skip
    dsimp only
    split
    next broken => exact .of_isOver broken
    next unbroken => exact all.blockValue _ _ (key.whole unbroken)
  · exact .of_whole rfl
  · exact .of_fail

/-- Behind a whole key the value is whole, or the entries stop there. -/
theorem blockValue_succ (all : MakesWhole fuel) (key : Tree) (p : Progress)
    (whole : key.isWhole = true) :
    Sound (Tree.allEntriesWhole (Progress.blockValue key (fuel + 1) p).1)
      (Progress.blockValue key (fuel + 1) p).2 := by
  unfold Progress.blockValue
  split
  · exact .of_fail
  next token _ _ =>
    have value : Sound
        (if token = .value then Progress.nodeUnless [.key, .value, .blockEnd] .entry fuel p.skip
          else p.missing).1.isWhole
        (if token = .value then Progress.nodeUnless [.key, .value, .blockEnd] .entry fuel p.skip
          else p.missing).2 := by
      split
      · exact all.nodeUnless _ _ _
      · exact .of_whole (by rw [missing_fst]; rfl)
    generalize (if token = .value then
        Progress.nodeUnless [.key, .value, .blockEnd] .entry fuel p.skip
        else p.missing) = result at value ⊢
    dsimp only
    split
    next broken => exact .of_isOver broken
    next unbroken => exact consEntry whole (value.whole unbroken) (all.blockEntries _)

/-- The items of a flow sequence are whole; a single entry among them counts as an item. -/
theorem flowItems_succ (all : MakesWhole fuel) (first : Bool) (p : Progress) :
    Sound (Tree.allWhole (Progress.flowItems first (fuel + 1) p).1)
      (Progress.flowItems first (fuel + 1) p).2 := by
  unfold Progress.flowItems
  split
  · exact .of_whole rfl
  · split
    · exact .of_fail
    · generalize (if first then p else p.skip) = q
      dsimp only
      split
      · exact .of_whole rfl
      · have pair := all.flowPair q.skip.count
        split
        next broken => exact .of_isOver broken
        next unbroken => exact cons (pair.whole unbroken) (all.flowItems _ _)
      · have item := all.node .flow q
        split
        next broken => exact .of_isOver broken
        next unbroken => exact cons (item.whole unbroken) (all.flowItems _ _)

/-- A single entry in a flow sequence is whole.  If no token is left behind it, there is a
second entry without parts, and a fault is recorded. -/
theorem flowPair_succ (all : MakesWhole fuel) (p : Progress) :
    Sound (Progress.flowPair (fuel + 1) p).1.isWhole (Progress.flowPair (fuel + 1) p).2 := by
  have single {key value : Tree} (whole : key.isWhole = true) (whole' : value.isWhole = true) :
      (Tree.mapping none [(key, value)]).isWhole = true := by
    rw [Tree.isWhole, Tree.allEntriesWhole, whole, whole']
    rfl
  unfold Progress.flowPair
  have key : Sound
      (if p.hasNode [.value, .flowEntry, .flowSequenceEnd] then Progress.node .flow fuel p
        else p.skip.missing).1.isWhole
      (if p.hasNode [.value, .flowEntry, .flowSequenceEnd] then Progress.node .flow fuel p
        else p.skip.missing).2 := by
    split
    · exact all.node _ _
    · exact .of_whole (by rw [missing_fst]; rfl)
  generalize (if p.hasNode [.value, .flowEntry, .flowSequenceEnd] then
    Progress.node .flow fuel p else p.skip.missing) = result at key ⊢
  dsimp only
  split
  next broken => exact .of_isOver broken
  next unbroken =>
    have whole := key.whole unbroken
    -- the value may be written, be cut off, or be missing
    split
    · have value := all.nodeUnless [.flowEntry, .flowSequenceEnd] .flow result.2.skip
      split
      next broken => exact .of_isOver broken
      next unbroken =>
        split
        · exact .of_fail
        · exact .of_whole (single whole (value.whole unbroken))
    · exact .of_fail
    · split
      next broken => exact .of_isOver broken
      next unbroken =>
        split
        · exact .of_fail
        · exact .of_whole (single whole (by rw [missing_fst]; rfl))

/-- The entries of a flow mapping are whole, or they stop behind the key or the value that is
not. -/
theorem flowEntries_succ (all : MakesWhole fuel) (first : Bool) (p : Progress) :
    Sound (Tree.allEntriesWhole (Progress.flowEntries first (fuel + 1) p).1)
      (Progress.flowEntries first (fuel + 1) p).2 := by
  unfold Progress.flowEntries
  split
  · exact .of_whole rfl
  · split
    · exact .of_fail
    · generalize (if first then p else p.skip) = q
      dsimp only
      split
      · exact .of_whole rfl
      · have key := all.nodeUnless [.value, .flowEntry, .flowMappingEnd] .flow q.skip
        split
        next broken => exact .of_isOver broken
        next unbroken =>
          have whole := key.whole unbroken
          split
          · have value := all.nodeUnless [.flowEntry, .flowMappingEnd] .flow
              (Progress.nodeUnless [.value, .flowEntry, .flowMappingEnd] .flow fuel q.skip).2.skip
            split
            next broken => exact .of_isOver broken
            next unbroken => exact consEntry whole (value.whole unbroken) (all.flowEntries _ _)
          · exact .of_fail
          · split
            next broken => exact .of_isOver broken
            next unbroken =>
              exact consEntry whole (by rw [missing_fst]; rfl) (all.flowEntries _ _)
      · have key := all.node .flow q
        split
        next broken => exact .of_isOver broken
        next unbroken =>
          split
          · exact .of_fail
          · exact consEntry (key.whole unbroken) (by rw [missing_fst]; rfl) (all.flowEntries _ _)

/-- **By induction on the fuel**, all of them at once. -/
theorem of_fuel (fuel : Nat) : MakesWhole fuel := by
  induction fuel with
  | zero =>
    exact
      { node := fun _ _ => .of_fail
        nodeUnless := fun _ _ _ => .of_fail
        blockItems := fun _ => .of_fail
        levelItems := fun _ => .of_fail
        blockEntries := fun _ => .of_fail
        blockValue := fun _ _ _ => .of_fail
        flowItems := fun _ _ => .of_fail
        flowPair := fun _ => .of_fail
        flowEntries := fun _ _ => .of_fail }
  | succ fuel all =>
    exact
      { node := all.node_succ
        nodeUnless := all.nodeUnless_succ
        blockItems := all.blockItems_succ
        levelItems := all.levelItems_succ
        blockEntries := all.blockEntries_succ
        blockValue := all.blockValue_succ
        flowItems := all.flowItems_succ
        flowPair := all.flowPair_succ
        flowEntries := all.flowEntries_succ }

end MakesWhole

/-! ### Documents -/

/-- The tree of a document is whole unless a fault is recorded, also where the document is
empty. -/
theorem sound_rootOf (marked : Bool) (p : Progress) :
    Sound (p.rootOf marked).1.isWhole (p.rootOf marked).2 := by
  have node := (MakesWhole.of_fuel (2 * p.tokens.length + 4)).node .item p
  unfold Progress.rootOf
  cases marked with
  | false => exact node
  | true =>
    dsimp only
    rw [if_pos rfl]
    split
    all_goals first | exact node | exact .of_whole (by rw [missing_fst]; rfl)

end Progress

open Progress in
/-- **The tree of a document without any fault** has all its parts. -/
theorem isWhole_root {text : String} (sound : (Document.ofText text).fault = none) :
    (Document.ofText text).root.isWhole = true := by
  unfold Document.ofText firstDocument at sound ⊢
  split
  next same => simp [same] at sound
  · rfl
  next tokens _ _ =>
    split
    next same => simp [same] at sound
    next rest handles marked begun =>
      have root := sound_rootOf marked { tokens := rest, handles }
      simp only [begun] at sound
      refine root ?_
      split at sound
      · cases sound
      · exact sound

end BreakCheck.Yaml

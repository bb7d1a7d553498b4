/-
BreakCheck/Proofs/Yaml/Lasting.lean

What lasts while tokens are made into a tree.

Of all that the functions of the grammar do to their progress, two things matter behind them:
they take tokens from the front, and they keep a node that has a name, which is never a mere
reference to another one.  A property that survives both of these survives a whole document
(`Lasts.rootOf`), whatever else it says.

The induction is over the fuel, for all functions of the grammar at once (`Preserves`).
-/
import BreakCheck.Yaml.Tree.Composition

namespace BreakCheck.Yaml

/-- Whether a tree is a reference. -/
def Tree.isReference : Tree → Bool
  | reference _ => true
  | _ => false

namespace Progress

/-- **A property lasts** if it survives that tokens are taken from the front, whatever happens
to the rest but the anchors, and that a node is named. -/
structure Lasts (holds : Progress → Prop) : Prop where
  step : ∀ {p q : Progress}, holds p → q.tokens <:+ p.tokens → q.anchors = p.anchors → holds q
  name : ∀ {p : Progress} (number position : Nat) {tree : Tree}, holds p →
    tree.isReference = false → holds { p with anchors := ⟨number, position, tree⟩ :: p.anchors }

/-- **The functions of the grammar preserve a property**, with some fuel. -/
structure Preserves (holds : Progress → Prop) (fuel : Nat) : Prop where
  node : ∀ place p, holds p → holds (node place fuel p).2
  nodeUnless : ∀ ends place p, holds p → holds (nodeUnless ends place fuel p).2
  blockItems : ∀ p, holds p → holds (blockItems fuel p).2
  levelItems : ∀ p, holds p → holds (levelItems fuel p).2
  blockEntries : ∀ p, holds p → holds (blockEntries fuel p).2
  blockValue : ∀ key p, holds p → holds (blockValue key fuel p).2
  flowItems : ∀ first p, holds p → holds (flowItems first fuel p).2
  flowPair : ∀ p, holds p → holds (flowPair fuel p).2
  flowEntries : ∀ first p, holds p → holds (flowEntries first fuel p).2

variable {holds : Progress → Prop} {p : Progress} {fuel : Nat}

namespace Lasts

/-! ### Single steps -/

/-- What lasts survives that a token is stepped over. -/
theorem skip (lasts : Lasts holds) (held : holds p) : holds p.skip :=
  lasts.step held (List.tail_suffix p.tokens) rfl

theorem count (lasts : Lasts holds) (held : holds p) : holds p.count :=
  lasts.step held (List.suffix_refl p.tokens) rfl

theorem fail (lasts : Lasts holds) (held : holds p) (fault : Fault) : holds (p.fail fault) :=
  lasts.step held (List.suffix_refl p.tokens) rfl

/-- What lasts survives that a node begins, with a name or without one. -/
theorem start (lasts : Lasts holds) (held : holds p) (anchor : Option String) :
    holds (p.start anchor).2 := by
  cases anchor <;> exact lasts.step held (List.suffix_refl p.tokens) rfl

/-- A node that is kept under a name is not a reference, so what lasts survives it. -/
theorem keep (lasts : Lasts holds) (held : holds p) (named : Option (Nat × Nat)) {tree : Tree}
    (node : tree.isReference = false) : holds (p.keep named tree).2 := by
  cases named with
  | none => exact held
  | some numbered => exact lasts.name numbered.1 numbered.2 held node

/-- What lasts survives an empty scalar, for it is a node and not a reference. -/
theorem missing (lasts : Lasts holds) (held : holds p) (anchor : Option String)
    (tag : Option Tag) : holds (p.missing anchor tag).2 :=
  lasts.keep (lasts.start held anchor) _ rfl

/-- An anchor and a tag are taken from the front of the tokens. -/
theorem properties (lasts : Lasts holds) (held : holds p) : holds p.properties.2 := by
  unfold Progress.properties
  split
  next same => exact lasts.step held (same ▸ ⟨[_, _], rfl⟩) rfl
  next same => exact lasts.step held (same ▸ ⟨[_, _], rfl⟩) rfl
  next same => exact lasts.step held (same ▸ ⟨[_], rfl⟩) rfl
  next same => exact lasts.step held (same ▸ ⟨[_], rfl⟩) rfl
  next => exact held

/-! ### The functions of the grammar -/

/-- **A node** preserves what lasts if all functions do with less fuel: whichever token it
begins with, the tokens it takes are the next ones, and what is kept under its name is a scalar
or a collection. -/
theorem node_succ (lasts : Lasts holds) (all : Preserves holds fuel) (place : Place)
    (held : holds p) : holds (Progress.node place (fuel + 1) p).2 := by
  unfold Progress.node
  split
  next same =>
    split
    · exact lasts.step held (same ▸ ⟨[_], rfl⟩) rfl
    · exact lasts.fail held _
  next =>
    have held := lasts.properties held
    generalize p.properties = found at held ⊢
    obtain ⟨found, p⟩ := found
    have named := lasts.start (lasts.skip held) found.anchor
    have level := lasts.start held found.anchor
    have failed := lasts.fail held .grammar
    dsimp only
    split
    -- a tag with an unknown handle
    · exact failed
    -- otherwise the next token decides, and a node that cannot begin here may be missing
    · have missing tag := lasts.missing held found.anchor tag
      split
      · exact lasts.keep named _ rfl
      · exact lasts.keep (all.flowItems _ _ named) _ rfl
      · exact lasts.keep (all.flowEntries _ _ named) _ rfl
      · split
        · exact lasts.keep (all.levelItems _ level) _ rfl
        · split
          · exact missing _
          · exact failed
      · split
        · exact lasts.keep (all.blockItems _ named) _ rfl
        · split
          · exact missing _
          · exact failed
      · split
        · exact lasts.keep (all.blockEntries _ named) _ rfl
        · split
          · exact missing _
          · exact failed
      · exact failed
      · split
        · exact missing _
        · exact failed

/-- A node that may be missing preserves what lasts, be it there or not. -/
theorem nodeUnless_succ (lasts : Lasts holds) (all : Preserves holds fuel) (ends : List Token)
    (place : Place) (held : holds p) :
    holds (Progress.nodeUnless ends place (fuel + 1) p).2 := by
  unfold Progress.nodeUnless
  split
  · exact all.node _ _ held
  · exact lasts.missing held _ _

/-- The items of a block sequence preserve what lasts, one by one and up to the end of the
block. -/
theorem blockItems_succ (lasts : Lasts holds) (all : Preserves holds fuel) (held : holds p) :
    holds (Progress.blockItems (fuel + 1) p).2 := by
  unfold Progress.blockItems
  split
  · have item := all.nodeUnless [.blockEntry, .blockEnd] .item _ (lasts.skip held)
    dsimp only
    split
    · exact item
    · exact all.blockItems _ item
  · exact lasts.count (lasts.skip held)
  · exact lasts.fail held _

/-- The items of a sequence that is not indented preserve what lasts, up to where no item
follows. -/
theorem levelItems_succ (lasts : Lasts holds) (all : Preserves holds fuel) (held : holds p) :
    holds (Progress.levelItems (fuel + 1) p).2 := by
  unfold Progress.levelItems
  split
  · have item := all.nodeUnless [.blockEntry, .key, .value, .blockEnd] .item _ (lasts.skip held)
    dsimp only
    split
    · exact item
    · exact all.levelItems _ item
  · exact lasts.fail held _
  · exact lasts.count held

/-- The entries of a block mapping preserve what lasts, each with its key first. -/
theorem blockEntries_succ (lasts : Lasts holds) (all : Preserves holds fuel) (held : holds p) :
    holds (Progress.blockEntries (fuel + 1) p).2 := by
  unfold Progress.blockEntries
  split
  · have key := all.nodeUnless [.key, .value, .blockEnd] .entry _ (lasts.skip held)
    dsimp only
    split
    · exact key
    · exact all.blockValue _ _ key
  · exact lasts.count (lasts.skip held)
  · exact lasts.fail held _

/-- The value of such an entry preserves what lasts, and so do the entries behind it. -/
theorem blockValue_succ (lasts : Lasts holds) (all : Preserves holds fuel) (key : Tree)
    (held : holds p) : holds (Progress.blockValue key (fuel + 1) p).2 := by
  unfold Progress.blockValue
  split
  · exact lasts.fail held _
  next token _ _ =>
    have value : holds (if token = .value then
        Progress.nodeUnless [.key, .value, .blockEnd] .entry fuel p.skip
        else p.missing).2 := by
      split
      · exact all.nodeUnless _ _ _ (lasts.skip held)
      · exact lasts.missing held _ _
    generalize (if token = .value then
        Progress.nodeUnless [.key, .value, .blockEnd] .entry fuel p.skip
        else p.missing) = result at value ⊢
    dsimp only
    split
    · exact value
    · exact all.blockEntries _ value

/-- In front of what is not the first of its collection stands a comma. -/
theorem entered (lasts : Lasts holds) (first : Bool) (held : holds p) :
    holds (if first then p else p.skip) := by
  split
  · exact held
  · exact lasts.skip held

/-- The items of a flow sequence preserve what lasts, those that are single entries included. -/
theorem flowItems_succ (lasts : Lasts holds) (all : Preserves holds fuel) (first : Bool)
    (held : holds p) : holds (Progress.flowItems first (fuel + 1) p).2 := by
  unfold Progress.flowItems
  split
  · exact lasts.count (lasts.skip held)
  · split
    · exact lasts.fail held _
    · have entered := lasts.entered first held
      generalize (if first then p else p.skip) = q at entered ⊢
      dsimp only
      split
      · exact lasts.count (lasts.skip entered)
      · have pair := all.flowPair _ (lasts.count (lasts.skip entered))
        split
        · exact pair
        · exact all.flowItems _ _ pair
      · have item := all.node .flow _ entered
        split
        · exact item
        · exact all.flowItems _ _ item

/-- A single entry in a flow sequence preserves what lasts; its key and its value may both be
missing. -/
theorem flowPair_succ (lasts : Lasts holds) (all : Preserves holds fuel) (held : holds p) :
    holds (Progress.flowPair (fuel + 1) p).2 := by
  unfold Progress.flowPair
  have key : holds (if p.hasNode [.value, .flowEntry, .flowSequenceEnd] then
      Progress.node .flow fuel p else p.skip.missing).2 := by
    split
    · exact all.node _ _ held
    · exact lasts.missing (lasts.skip held) _ _
  generalize (if p.hasNode [.value, .flowEntry, .flowSequenceEnd] then
    Progress.node .flow fuel p else p.skip.missing) = result at key ⊢
  have ended (value : Tree × Progress) (held : holds value.2) :
      holds (if value.2.isOver then (Tree.mapping none [(result.1, value.1)], value.2)
        else if value.2.tokens.isEmpty then
          (.mapping none [(result.1, value.1), (.cut, .cut)], value.2.fail)
        else (.mapping none [(result.1, value.1)], value.2.count)).2 := by
    split
    · exact held
    · split
      · exact lasts.fail held _
      · exact lasts.count held
  dsimp only
  split
  · exact key
  -- the value may be written, be cut off, or be missing
  · split
    · exact ended _ (all.nodeUnless _ _ _ (lasts.skip key))
    · exact ended (.cut, _) (lasts.fail key _)
    · exact ended _ (lasts.missing key _ _)

/-- The entries of a flow mapping preserve what lasts, those with an indicator of their key and
those without. -/
theorem flowEntries_succ (lasts : Lasts holds) (all : Preserves holds fuel) (first : Bool)
    (held : holds p) : holds (Progress.flowEntries first (fuel + 1) p).2 := by
  unfold Progress.flowEntries
  split
  · exact lasts.count (lasts.skip held)
  · split
    · exact lasts.fail held _
    · have entered := lasts.entered first held
      generalize (if first then p else p.skip) = q at entered ⊢
      dsimp only
      split
      · exact lasts.count (lasts.skip entered)
      · have key := all.nodeUnless [.value, .flowEntry, .flowMappingEnd] .flow _
          (lasts.skip entered)
        have others (key : Tree) (value : Tree × Progress) (held : holds value.2) :
            holds (if value.2.isOver then ([(key, value.1)], value.2)
              else ((key, value.1) :: (Progress.flowEntries false fuel value.2).1,
                (Progress.flowEntries false fuel value.2).2)).2 := by
          split
          · exact held
          · exact all.flowEntries _ _ held
        split
        · exact key
        · split
          · exact others _ _ (all.nodeUnless _ _ _ (lasts.skip key))
          · exact others _ (.cut, _) (lasts.fail key _)
          · exact others _ _ (lasts.missing key _ _)
      · have key := all.node .flow _ entered
        split
        · exact key
        · split
          · exact lasts.fail key _
          · exact all.flowEntries _ _ (lasts.missing key _ _)

/-- **By induction on the fuel**, all of them at once. -/
theorem preserves (lasts : Lasts holds) (fuel : Nat) : Preserves holds fuel := by
  induction fuel with
  | zero =>
    exact
      { node := fun _ _ held => lasts.fail held _
        nodeUnless := fun _ _ _ held => lasts.fail held _
        blockItems := fun _ held => lasts.fail held _
        levelItems := fun _ held => lasts.fail held _
        blockEntries := fun _ held => lasts.fail held _
        blockValue := fun _ _ held => lasts.fail held _
        flowItems := fun _ _ held => lasts.fail held _
        flowPair := fun _ held => lasts.fail held _
        flowEntries := fun _ _ held => lasts.fail held _ }
  | succ fuel all =>
    exact
      { node := fun place _ => lasts.node_succ all place
        nodeUnless := fun ends place _ => lasts.nodeUnless_succ all ends place
        blockItems := fun _ => lasts.blockItems_succ all
        levelItems := fun _ => lasts.levelItems_succ all
        blockEntries := fun _ => lasts.blockEntries_succ all
        blockValue := fun key _ => lasts.blockValue_succ all key
        flowItems := fun first _ => lasts.flowItems_succ all first
        flowPair := fun _ => lasts.flowPair_succ all
        flowEntries := fun first _ => lasts.flowEntries_succ all first }

/-! ### Documents -/

/-- **What lasts** holds behind the root of a document if it held in front of it. -/
theorem rootOf (lasts : Lasts holds) (held : holds p) (marked : Bool) :
    holds (p.rootOf marked).2 := by
  have node := (lasts.preserves (2 * p.tokens.length + 4)).node .item p held
  unfold Progress.rootOf
  cases marked with
  | false => exact node
  | true =>
    dsimp only
    rw [if_pos rfl]
    split
    all_goals first | exact node | exact lasts.missing held _ _

end Lasts

end Progress

end BreakCheck.Yaml

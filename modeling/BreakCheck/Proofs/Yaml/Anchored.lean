/-
BreakCheck/Proofs/Yaml/Anchored.lean

What references lead to.

An anchor names a scalar or a collection, or what is missing in its place, but never a mere
reference.  So a reference is followed at most once: what it leads to is a node of its own,
or the text breaks off there (`follow_follow`).

This is true of the documents that texts have (`isAnchored_ofText`), and not of any document
whatever: anchors of a document without a text could name references.
-/
import BreakCheck.Proofs.Yaml.Lasting
import BreakCheck.Yaml.Reading

namespace BreakCheck.Yaml

/-! ### Documents of texts -/

/-- No anchor names a reference. -/
def AnchorsNodes (anchors : List Anchor) : Prop :=
  ∀ anchor ∈ anchors, anchor.tree.isReference = false

/-- **Whatever is named is no reference**, all along a document. -/
theorem anchorsNodes_lasts : Progress.Lasts fun p => AnchorsNodes p.anchors where
  step held _ same := by rwa [same]
  name _ _ _ held node := List.forall_mem_cons.2 ⟨node, held⟩

/-- A document in which references lead to nodes. -/
def Document.IsAnchored (document : Document) : Prop := AnchorsNodes document.anchors

theorem isAnchored_firstDocument (tokens : List Token) :
    (Progress.firstDocument tokens).IsAnchored := by
  have none : AnchorsNodes [] := List.forall_mem_nil _
  unfold Progress.firstDocument
  split
  · exact none
  · exact none
  · split
    · exact none
    next rest handles marked _ =>
      have held := anchorsNodes_lasts.rootOf (p := { tokens := rest, handles }) none marked
      generalize Progress.rootOf marked { tokens := rest, handles } = result at held
      show AnchorsNodes (if _ then _ else _ : Progress).anchors
      split
      · exact anchorsNodes_lasts.fail held _
      · exact held

theorem isAnchored_ofText (text : String) : (Document.ofText text).IsAnchored :=
  isAnchored_firstDocument _

/-- **A reference leads to a node**, if it leads anywhere. -/
theorem Document.IsAnchored.target {document : Document} (anchored : document.IsAnchored)
    {number : Nat} {tree : Tree} (target : document.target? number = some tree) :
    tree.isReference = false := by
  obtain ⟨anchor, chosen, rfl⟩ := Option.map_eq_some_iff.1 target
  refine anchored anchor ?_
  -- whichever of the anchors comes out best is one of them
  revert chosen
  refine List.foldlRecOn _ _ (motive := fun best => best = some anchor → _) ?_ ?_
  · intro none
    cases none
  · intro best held other among chosen
    have other_mem := (List.mem_filter.1 among).1
    split at chosen
    · cases chosen
      exact other_mem
    next kept =>
      split at chosen
      · cases chosen
        exact other_mem
      · exact held chosen

/-! ### Following -/

namespace Reader

theorem follow_of_node {tree : Tree} (node : tree.isReference = false) (context : Context) :
    follow context tree = pure tree := by
  cases tree with
  | reference number => cases node
  | _ => rfl

/-- **There is nothing to follow twice.** -/
theorem follow_follow {context : Context} (anchored : context.document.IsAnchored)
    (tree : Tree) : follow context tree >>= follow context = follow context tree := by
  cases tree with
  | reference number =>
    simp only [follow, bind_assoc]
    refine bind_congr fun followed => bind_congr fun _ => ?_
    split
    · rfl
    · rw [pure_bind]
      refine follow_of_node ?_ context
      cases found : context.document.target? number with
      | none => rfl
      | some tree => exact anchored.target found
  | _ => rfl

/-- **A node is read where a reference leads to it.** -/
theorem follow_nodeWithin {context : Context} (anchored : context.document.IsAnchored)
    (levels : Nat) (tree : Tree) :
    follow context tree >>= nodeWithin levels context = nodeWithin levels context tree := by
  -- with and without levels left, the first step of a node is to follow its tree
  cases levels
  all_goals
    show follow context tree >>= (fun tree => follow context tree >>= _)
      = follow context tree >>= _
    rw [← bind_assoc, follow_follow anchored]

end Reader

end BreakCheck.Yaml

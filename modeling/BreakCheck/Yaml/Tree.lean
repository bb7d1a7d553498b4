/-
BreakCheck/Yaml/Tree.lean

YAML documents as trees, as far as they are well formed.

A reader goes through a document from front to back and stops at the first thing
it cannot accept.  So a fault does not make the whole text unreadable: the tree
holds everything before it, and `cut` stands where the text breaks off.

A collection or scalar may be named by an anchor and be referred to elsewhere.
References are kept as such; what they stand for is looked up in the document.
A name that is given again gets a number that another name may get later, too;
a number stands for the last node that has it.
-/
import BreakCheck.Yaml.Token

namespace BreakCheck.Yaml

/-- A node of a YAML document. -/
inductive Tree
  | scalar (style : ScalarStyle) (tag : Option Tag) (text : String)
  | sequence (tag : Option Tag) (items : List Tree)
  | mapping (tag : Option Tag) (entries : List (Tree × Tree))
  /-- What an anchor with this number stands for. -/
  | reference (number : Nat)
  /-- What a text without any document holds. -/
  | void
  /-- The place where the text breaks off. -/
  | cut

/-- Why the text of a document breaks off. -/
inductive Fault
  | grammar
  /-- A reference to a name that no anchor before it has. -/
  | unknownAnchor
  deriving DecidableEq

/-- A node that an anchor names. -/
structure Anchor where
  number : Nat
  /-- How much of the document lies before the node. -/
  position : Nat
  tree : Tree

/-- The first document of a text. -/
structure Document where
  root : Tree
  anchors : List Anchor
  /-- How many beginnings and ends of collections, scalars and references there are. -/
  size : Nat
  fault : Option Fault
  /-- Whether the text goes on behind the document. -/
  continues : Bool

namespace Tree

/-- A scalar that is not written. -/
def missing : Tree := scalar .plain none ""

mutual

/-- Whether a tree has all its parts. -/
def isWhole : Tree → Bool
  | scalar .. => true
  | sequence _ items => allWhole items
  | mapping _ entries => allEntriesWhole entries
  | reference _ => true
  | void => true
  | cut => false

/-- Whether all items have all their parts. -/
def allWhole : List Tree → Bool
  | [] => true
  | item :: rest => item.isWhole && allWhole rest

/-- Whether all keys and values have all their parts. -/
def allEntriesWhole : List (Tree × Tree) → Bool
  | [] => true
  | (key, value) :: rest => key.isWhole && value.isWhole && allEntriesWhole rest

end

end Tree

namespace Document

/-- The node that a number stands for. -/
def target? (document : Document) (number : Nat) : Option Tree :=
  let named := document.anchors.filter fun anchor => anchor.number == number
  (named.foldl (fun best anchor =>
    match best with
    | none => some anchor
    | some other => if other.position < anchor.position then some anchor else some other)
    none).map Anchor.tree

end Document

end BreakCheck.Yaml

/-
BreakCheck/Proofs/Json/NodeRoundTrip.lean

Nodes that come back from their JSON text.

A node goes to a text by way of the tree that it says (`Node.jsonTree`), and comes from a text by
way of what a tree says as a node (`Tree.asNode`).  The two are opposite to each other up to the
style of mappings, but neither takes every node: a key has to be a scalar for the text to be
written, and an item has to be one for the text to be read; and a key without a value is written
with the value null, which is then read as one.

So a node comes back exactly if it is proper (`Node.isProper`) and not nested deeper than readers
go:

    read (write node) = node.unstyled  ↔  node.isProper ∧ node.depth ≤ maxDepth.

Nothing is asked of the texts themselves, so a scalar that looks like a number or like null comes
back as well as any other; and keys may be repeated.

Design.  What the reader asks of a tree is already told by properties of trees (`Reader.node_eq`).
Each of them is brought back to the node by an induction over the node, which takes the content of
a mapping two nodes at a time as the writer does.

Main result: `read_write_node`.
-/
import BreakCheck.Proofs.Json.NodeText
import BreakCheck.Proofs.Json.ReadNode
import BreakCheck.Proofs.Json.Reads

namespace BreakCheck

open Json (Tree)

namespace Node

/-! ### Proper nodes -/

mutual

/-- **A node is proper** if the keys of its mappings and the items of its sequences are scalars,
and every key has a value; the values may be any proper nodes. -/
def isProper : Node → Bool
  | null => true
  | scalar _ => true
  | sequence items => items.all isScalar
  | mapping _ content => contentIsProper content

/-- Whether scalars and proper nodes take turns, up to the value of the last key. -/
def contentIsProper : List Node → Bool
  | [] => true
  | [_] => false
  | key :: value :: rest => (key.isScalar && value.isProper) && contentIsProper rest

end

mutual

/-- How many sequences and mappings there are, each in the one before. -/
def depth : Node → Nat
  | null => 0
  | scalar _ => 0
  | sequence items => childrenDepth items + 1
  | mapping _ content => childrenDepth content + 1

/-- The greatest depth of a child. -/
def childrenDepth : List Node → Nat
  | [] => 0
  | child :: rest => max child.depth (childrenDepth rest)

end

mutual

/-- A node with all of its mappings in plain style. -/
def unstyled : Node → Node
  | null => .null
  | scalar text => .scalar text
  | sequence items => .sequence (childrenUnstyled items)
  | mapping _ content => .mapping .plain (childrenUnstyled content)

/-- The children of a node, all mappings within them in plain style. -/
def childrenUnstyled : List Node → List Node
  | [] => []
  | child :: rest => child.unstyled :: childrenUnstyled rest

end

/-- A row of scalars bears JSON. -/
theorem itemsBearJson_of_scalars {items : List Node} (scalars : items.all isScalar = true) :
    Data.itemsBearJson (itemData items) = true := by
  induction items with
  | nil => rfl
  | cons item rest ih =>
    rw [List.all_cons, Bool.and_eq_true] at scalars
    cases item with
    | scalar text => rw [itemData, Data.itemsBearJson, ih scalars.2]; rfl
    | _ => cases scalars.1

mutual

/-- **Proper nodes are written as JSON**: their keys are texts, and as no key is left over, each
mapping announces just the entries that it has. -/
theorem bearsJson_of_isProper : ∀ node : Node, node.isProper = true →
    node.toData.bearsJson = true
  | null, _ => rfl
  | scalar _, _ => rfl
  | sequence _, proper => itemsBearJson_of_scalars proper
  | mapping _ [], _ => rfl
  | mapping _ (key :: value :: rest), proper => by
    -- half of the children are announced, so not none
    have announced : (key :: value :: rest).length / 2 = rest.length / 2 + 1 :=
      Nat.add_div_right rest.length Nat.two_pos
    rw [toData, announced, Data.bearsJson,
      entriesBearJson_of_isProper (key :: value :: rest) proper]
    rfl

theorem entriesBearJson_of_isProper : ∀ content : List Node,
    contentIsProper content = true → Data.entriesBearJson (entryData content) = true
  | [], _ => rfl
  | key :: value :: rest, proper => by
    rw [contentIsProper, Bool.and_eq_true, Bool.and_eq_true] at proper
    rw [entryData, Data.entriesBearJson, isText_toData, proper.1.1,
      bearsJson_of_isProper value proper.1.2, entriesBearJson_of_isProper rest proper.2]
    rfl

end

/-- The keys of a proper node are scalars. -/
theorem keysAreScalars_of_isProper {node : Node} (proper : node.isProper = true) :
    node.keysAreScalars = true :=
  ((bearsJson_toData_iff node).1 (bearsJson_of_isProper node proper)).1

/-! ### The tree of a node that is written -/

theorem isText_jsonTree (node : Node) : node.jsonTree.isText = node.isScalar := by
  cases node <;> rfl

/-- A scalar that stands as a key or as an item comes back by itself. -/
theorem asNode_jsonTree_of_isScalar {node : Node} (isScalar : node.isScalar = true) :
    node.jsonTree.asNode = node.unstyled := by
  cases node with
  | scalar text => rfl
  | _ => cases isScalar

theorem depth_of_isScalar {node : Node} (isScalar : node.isScalar = true) : node.depth = 0 := by
  cases node with
  | scalar text => rfl
  | _ => cases isScalar

/-- Items are texts in the tree exactly if they are scalars in the node. -/
theorem all_isText_itemTrees (items : List Node) :
    (itemTrees items).all Tree.isText = items.all isScalar := by
  induction items with
  | nil => rfl
  | cons item rest ih => rw [itemTrees, List.all_cons, List.all_cons, isText_jsonTree, ih]

theorem itemNodes_itemTrees_of_scalars {items : List Node} (scalars : items.all isScalar = true) :
    Tree.itemNodes (itemTrees items) = childrenUnstyled items := by
  induction items with
  | nil => rfl
  | cons item rest ih =>
    rw [List.all_cons, Bool.and_eq_true] at scalars
    rw [itemTrees, Tree.itemNodes, childrenUnstyled, asNode_jsonTree_of_isScalar scalars.1,
      ih scalars.2]

mutual

/-- **A tree that is written is usable** all through. -/
theorem every_isUsable_jsonTree : ∀ node : Node, node.keysAreScalars = true →
    node.jsonTree.every Tree.isUsable = true
  | null, _ => rfl
  | scalar _, _ => rfl
  | sequence items, scalars => itemsEvery_isUsable_itemTrees items scalars
  | mapping _ content, scalars => by
    obtain ⟨named, usable⟩ := valuesEvery_isUsable_memberTrees content scalars
    rw [jsonTree, Tree.every, Tree.isUsable, named, usable]
    rfl

theorem itemsEvery_isUsable_itemTrees : ∀ items : List Node, itemKeysAreScalars items = true →
    Tree.itemsEvery Tree.isUsable (itemTrees items) = true
  | [], _ => rfl
  | item :: rest, scalars => by
    rw [itemKeysAreScalars, Bool.and_eq_true] at scalars
    rw [itemTrees, Tree.itemsEvery, every_isUsable_jsonTree item scalars.1,
      itemsEvery_isUsable_itemTrees rest scalars.2]
    rfl

theorem valuesEvery_isUsable_memberTrees : ∀ content : List Node,
    contentKeysAreScalars content = true →
      (memberTrees content).all (fun member => member.1.isText) = true
        ∧ Tree.valuesEvery Tree.isUsable (memberTrees content) = true
  | [], _ => ⟨rfl, rfl⟩
  | [key], scalars => by
    rw [memberTrees, List.all_cons, isText_jsonTree, show key.isScalar = true from scalars]
    exact ⟨rfl, rfl⟩
  | key :: value :: rest, scalars => by
    rw [contentKeysAreScalars, Bool.and_eq_true, Bool.and_eq_true] at scalars
    obtain ⟨named, usable⟩ := valuesEvery_isUsable_memberTrees rest scalars.2
    rw [memberTrees, List.all_cons, isText_jsonTree, scalars.1.1, named, Tree.valuesEvery,
      every_isUsable_jsonTree value scalars.1.2, usable]
    exact ⟨rfl, rfl⟩

end

mutual

/-- A node is nested as deep as its tree, for keys that are scalars add nothing. -/
theorem depth_jsonTree : ∀ node : Node, node.keysAreScalars = true →
    node.jsonTree.depth = node.depth
  | null, _ => rfl
  | scalar _, _ => rfl
  | sequence items, scalars => by
    rw [jsonTree, Tree.depth, depth, itemsDepth_itemTrees items scalars]
  | mapping _ content, scalars => by
    rw [jsonTree, Tree.depth, depth, valuesDepth_memberTrees content scalars]

theorem itemsDepth_itemTrees : ∀ items : List Node, itemKeysAreScalars items = true →
    Tree.itemsDepth (itemTrees items) = childrenDepth items
  | [], _ => rfl
  | item :: rest, scalars => by
    rw [itemKeysAreScalars, Bool.and_eq_true] at scalars
    rw [itemTrees, Tree.itemsDepth, childrenDepth, depth_jsonTree item scalars.1,
      itemsDepth_itemTrees rest scalars.2]

theorem valuesDepth_memberTrees : ∀ content : List Node, contentKeysAreScalars content = true →
    Tree.valuesDepth (memberTrees content) = childrenDepth content
  | [], _ => rfl
  | [key], scalars => by
    rw [childrenDepth, depth_of_isScalar scalars]
    rfl
  | key :: value :: rest, scalars => by
    rw [contentKeysAreScalars, Bool.and_eq_true, Bool.and_eq_true] at scalars
    rw [memberTrees, Tree.valuesDepth, childrenDepth, depth_of_isScalar scalars.1.1,
      Nat.zero_max, childrenDepth, depth_jsonTree value scalars.1.2,
      valuesDepth_memberTrees rest scalars.2]

end

mutual

/-- **A node is proper** exactly if its tree lists texts only and says the node again. -/
theorem isProper_iff : ∀ node : Node, node.keysAreScalars = true →
    (node.isProper = true ↔ node.jsonTree.every Tree.listsTexts = true
      ∧ node.jsonTree.asNode = node.unstyled)
  | null, _ => iff_of_true rfl ⟨rfl, rfl⟩
  | scalar _, _ => iff_of_true rfl ⟨rfl, rfl⟩
  | sequence items, _ => by
    rw [isProper, jsonTree, Tree.every, Tree.listsTexts, all_isText_itemTrees, Bool.and_eq_true]
    constructor
    · intro scalars
      refine ⟨⟨scalars, Tree.itemsEvery_of_texts (fun _ => rfl) ?_⟩, ?_⟩
      · rw [all_isText_itemTrees, scalars]
      · rw [Tree.asNode, unstyled, itemNodes_itemTrees_of_scalars scalars]
    · exact fun both => both.1.1
  | mapping _ content, scalars => by
    have own : (Tree.object (memberTrees content)).listsTexts = true := rfl
    rw [isProper, contentIsProper_iff content scalars, jsonTree, Tree.every, own, Bool.true_and,
      Tree.asNode, unstyled, Node.mapping.injEq]
    simp only [true_and]

/-- Content is proper exactly if the values list texts and its tree makes up the content again.
-/
theorem contentIsProper_iff : ∀ content : List Node, contentKeysAreScalars content = true →
    (contentIsProper content = true ↔ Tree.valuesEvery Tree.listsTexts (memberTrees content) = true
      ∧ Tree.memberNodes (memberTrees content) = childrenUnstyled content)
  | [], _ => iff_of_true rfl ⟨rfl, rfl⟩
  -- a key without a value gets one, which is then one node too many
  | [_], _ => iff_of_false nofun fun both =>
    List.cons_ne_nil _ _ (List.cons.inj both.2).2
  | key :: value :: rest, scalars => by
    rw [contentKeysAreScalars, Bool.and_eq_true, Bool.and_eq_true] at scalars
    rw [contentIsProper, Bool.and_eq_true, Bool.and_eq_true, isProper_iff value scalars.1.2,
      contentIsProper_iff rest scalars.2, memberTrees, Tree.valuesEvery, Bool.and_eq_true,
      Tree.memberNodes, childrenUnstyled, childrenUnstyled,
      asNode_jsonTree_of_isScalar scalars.1.1, List.cons.injEq, List.cons.injEq]
    simp only [scalars.1.1, true_and]
    exact and_and_and_comm

end

/-! ### Reading what has been written -/

/-- **A proper node is read** wherever its tree stands, if there are levels enough for it. -/
theorem reads_toData {node : Node} (proper : node.isProper = true) :
    Json.Reader.Reads node.depth Decoder.node node.toData (pure node.unstyled) := by
  intro levels enough
  have scalars := keysAreScalars_of_isProper proper
  obtain ⟨straight, same⟩ := (isProper_iff node scalars).1 proper
  show Json.Reader.node node.toData.jsonTree levels = pure node.unstyled
  rw [jsonTree_toData, Json.Reader.node_eq _ _ (every_isUsable_jsonTree node scalars)
    (le_of_eq_of_le (depth_jsonTree node scalars) enough),
    (Tree.strayItem?_eq_none_iff _).2 straight, same]
  rfl

/-- The text of a node that can be read at all is the text of its tree. -/
theorem ofText_of_read {style : Json.Style} {node found : Node} {text : String}
    (written : Json.write style node.toData = .ok text)
    (given : (Json.read (Decoder.node : Json.Reader Node) text).outcome.value = .ok found) :
    Json.Tree.ofText text = (node.jsonTree, true) := by
  obtain ⟨complete, given⟩ := Json.read_eq_ok_iff.1 given
  obtain ⟨usable, -⟩ := Json.Reader.usable_of_node _ _ given
  have wellFormed : Json.isWellFormed text = true := by
    rw [Json.isWellFormed, Tree.isSound_of_usable _ usable, complete]
    rfl
  obtain ⟨straight, parsed⟩ := Json.isWellFormed_iff written
  rw [← jsonTree_toData]
  exact parsed.2 (straight.1 wellFormed)

/-- **What comes back as it is was proper**, for the reader adds nothing and takes nothing away. -/
theorem isProper_of_read {style : Json.Style} {node : Node} {text : String}
    (written : Json.write style node.toData = .ok text)
    (given : (Json.read (Decoder.node : Json.Reader Node) text).outcome.value
      = .ok node.unstyled) :
    node.isProper = true ∧ node.depth ≤ Json.maxDepth := by
  have scalars : node.keysAreScalars = true := by
    rw [← namesAreTexts_toData]
    exact Json.namesAreTexts_of_write written
  have parsed := ofText_of_read written given
  obtain ⟨-, found⟩ := Json.read_eq_ok_iff.1 given
  rw [parsed] at found
  obtain ⟨usable, enough⟩ := Json.Reader.usable_of_node _ _ found
  have same : (Json.Reader.node node.jsonTree Json.maxDepth).outcome.value
    = .ok node.unstyled := found
  rw [Json.Reader.node_eq _ _ usable enough] at same
  rw [isProper_iff node scalars, ← Tree.strayItem?_eq_none_iff, ← depth_jsonTree node scalars]
  -- a stray item would have been reported
  cases stray : node.jsonTree.strayItem? with
  | some item =>
    rw [stray] at same
    cases same
  | none =>
    rw [stray] at same
    exact ⟨⟨rfl, Except.ok.inj same⟩, enough⟩

/-- **Nodes come back from their JSON text** exactly if they are proper and not nested too deep.
What is read then is the node itself, with its mappings in plain style. -/
theorem read_write_node (style : Json.Style) (node : Node) :
    (∃ text, Json.write style node.toData = .ok text
        ∧ Json.read (Decoder.node : Json.Reader Node) text = pure node.unstyled)
      ↔ node.isProper = true ∧ node.depth ≤ Json.maxDepth := by
  constructor
  · rintro ⟨text, written, back⟩
    refine isProper_of_read written ?_
    rw [back]
    rfl
  · rintro ⟨proper, shallow⟩
    exact Json.read_write (reads_toData proper) shallow (bearsJson_of_isProper node proper) style

end Node

end BreakCheck

/-
BreakCheck/Proofs/Json/ReadNode.lean

Nodes that are read from JSON texts.

Keys and items of a node are texts.  A name is a text in JSON anyway, but an item may be
anything, and only a text is taken for one: an item that is a number, a boolean or null is
refused as well as one that is an array or an object, although each of these has a text and is
taken for it where it stands as a value.

So a text is read as a node if four things are right: it is well formed, it holds nothing that is
of no use at all (`Tree.isUsable`), it is not nested too deep, and its arrays list texts.  The
node is then what the tree says, part by part (`Tree.asNode`); otherwise, if only an item is
wrong, the first such item in document order is reported (`Tree.strayItem?`).

Design.  `node_eq` is the one induction over what can be read, and `usable_of_node` the one over
what has been read; both follow `Reader.node`.

Main result: `read_node`.
-/
import BreakCheck.Json.Reading
import BreakCheck.Proofs.Attempt
import BreakCheck.Proofs.Json.Brackets
import BreakCheck.Yaml.Reading
import Mathlib

namespace BreakCheck.Json

namespace Tree

/-! ### What holds throughout a tree -/

mutual

/-- Whether something holds of a value and of all values within it. -/
def every (holds : Tree → Bool) : Tree → Bool
  | array items => holds (array items) && itemsEvery holds items
  | object members => holds (object members) && valuesEvery holds members
  | tree => holds tree

/-- Whether something holds of all values within the items of an array. -/
def itemsEvery (holds : Tree → Bool) : List Tree → Bool
  | [] => true
  | item :: rest => item.every holds && itemsEvery holds rest

/-- Whether something holds of all values within the members of an object. -/
def valuesEvery (holds : Tree → Bool) : List (Tree × Tree) → Bool
  | [] => true
  | (_, value) :: rest => value.every holds && valuesEvery holds rest

end

def isText : Tree → Bool
  | text _ => true
  | _ => false

/-- Whether a value is a single one, neither an array nor an object. -/
def isSingle : Tree → Bool
  | array _ => false
  | object _ => false
  | _ => true

/-- Whether a value is no fault, no text with half of a surrogate pair and no number beyond all
bounds, and all names in it are texts. -/
def isUsable : Tree → Bool
  | number .outOfRange => false
  | flawed => false
  | broken => false
  | object members => members.all fun member => member.1.isText
  | _ => true

/-- Whether a value lists nothing but texts, if it is an array. -/
def listsTexts : Tree → Bool
  | array items => items.all isText
  | _ => true

/-- Whether a value lists nothing but single values, if it is an array. -/
def listsSingles : Tree → Bool
  | array items => items.all isSingle
  | _ => true

mutual

/-- How many arrays and objects there are, each in the one before. -/
def depth : Tree → Nat
  | array items => itemsDepth items + 1
  | object members => valuesDepth members + 1
  | _ => 0

/-- The greatest depth of an item. -/
def itemsDepth : List Tree → Nat
  | [] => 0
  | item :: rest => max item.depth (itemsDepth rest)

/-- The greatest depth of a member. -/
def valuesDepth : List (Tree × Tree) → Nat
  | [] => 0
  | (_, value) :: rest => max value.depth (valuesDepth rest)

end

/-! ### What a tree says as a node -/

mutual

/-- **The node that a tree says**: texts with their content, numbers and booleans as they are
spelled, and arrays and objects with their parts in order. -/
def asNode : Tree → Node
  | null => .null
  | flag value => .scalar (if value then "true" else "false")
  | number (.integer value) => .scalar (toString value)
  | number (.real value) => .scalar (value.text .plain)
  | number .outOfRange => .null
  | text value => .scalar value
  | flawed => .null
  | array items => .sequence (itemNodes items)
  | object members => .mapping .plain (memberNodes members)
  | broken => .null

/-- The nodes of items. -/
def itemNodes : List Tree → List Node
  | [] => []
  | item :: rest => item.asNode :: itemNodes rest

/-- The nodes of names and values, in turns. -/
def memberNodes : List (Tree × Tree) → List Node
  | [] => []
  | (name, value) :: rest => name.asNode :: value.asNode :: memberNodes rest

end

mutual

/-- The first item that is no text. -/
def strayItem? : Tree → Option Tree
  | array items => items.find? fun item => !item.isText
  | object members => strayWithin? members
  | _ => none

/-- The first item that is no text, within the members of an object. -/
def strayWithin? : List (Tree × Tree) → Option Tree
  | [] => none
  | (_, value) :: rest => value.strayItem?.or (strayWithin? rest)

end

/-- Of texts there is nothing within. -/
theorem every_of_isText {holds : Tree → Bool} (text : ∀ value, holds (.text value) = true)
    {tree : Tree} (isText : tree.isText = true) : tree.every holds = true := by
  cases tree with
  | text value => exact text value
  | _ => cases isText

theorem itemsEvery_of_texts {holds : Tree → Bool} (text : ∀ value, holds (.text value) = true)
    {items : List Tree} (texts : items.all isText = true) : itemsEvery holds items = true := by
  induction items with
  | nil => rfl
  | cons item rest ih =>
    rw [List.all_cons, Bool.and_eq_true] at texts
    rw [itemsEvery, every_of_isText text texts.1, ih texts.2]
    rfl

theorem itemsDepth_of_texts {items : List Tree} (texts : items.all isText = true) :
    itemsDepth items = 0 := by
  induction items with
  | nil => rfl
  | cons item rest ih =>
    rw [List.all_cons, Bool.and_eq_true] at texts
    cases item with
    | text value => rw [itemsDepth, ih texts.2]; rfl
    | _ => cases texts.1

mutual

/-- **No item is stray** exactly if all arrays list texts. -/
theorem strayItem?_eq_none_iff : ∀ tree : Tree,
    tree.strayItem? = none ↔ tree.every listsTexts = true
  | null => iff_of_true rfl rfl
  | flag _ => iff_of_true rfl rfl
  | number _ => iff_of_true rfl rfl
  | text _ => iff_of_true rfl rfl
  | flawed => iff_of_true rfl rfl
  | broken => iff_of_true rfl rfl
  | array items => by
    have none_iff : (array items).strayItem? = none ↔ items.all isText = true := by
      rw [strayItem?, List.find?_eq_none, List.all_eq_true]
      exact forall₂_congr fun item _ => by rw [Bool.not_eq_true, Bool.not_eq_false']
    rw [none_iff, every, listsTexts, Bool.and_eq_true]
    exact ⟨fun texts => ⟨texts, itemsEvery_of_texts (fun _ => rfl) texts⟩, And.left⟩
  | object members => by
    have own : (object members).listsTexts = true := rfl
    rw [strayItem?, every, own, Bool.true_and, strayWithin?_eq_none_iff members]

theorem strayWithin?_eq_none_iff : ∀ members : List (Tree × Tree),
    strayWithin? members = none ↔ valuesEvery listsTexts members = true
  | [] => iff_of_true rfl rfl
  | (_, value) :: rest => by
    rw [strayWithin?, valuesEvery, Option.or_eq_none_iff, Bool.and_eq_true,
      strayItem?_eq_none_iff value, strayWithin?_eq_none_iff rest]

end

mutual

/-- What is usable all through is sound. -/
theorem isSound_of_usable : ∀ tree : Tree, tree.every isUsable = true → tree.isSound = true
  | null, _ => rfl
  | flag _, _ => rfl
  | number _, _ => rfl
  | text _, _ => rfl
  | array items, usable => by
    rw [every, Bool.and_eq_true] at usable
    rw [isSound, allSound_of_usable items usable.2]
  | object members, usable => by
    rw [every, isUsable, Bool.and_eq_true] at usable
    rw [isSound, allMembersSound_of_usable members usable.1 usable.2]

theorem allSound_of_usable : ∀ items : List Tree, itemsEvery isUsable items = true →
    allSound items = true
  | [], _ => rfl
  | item :: rest, usable => by
    rw [itemsEvery, Bool.and_eq_true] at usable
    rw [allSound, isSound_of_usable item usable.1, allSound_of_usable rest usable.2]
    rfl

theorem allMembersSound_of_usable : ∀ members : List (Tree × Tree),
    members.all (fun member => member.1.isText) = true → valuesEvery isUsable members = true →
      allMembersSound members = true
  | [], _, _ => rfl
  | (name, value) :: rest, named, usable => by
    rw [List.all_cons, Bool.and_eq_true] at named
    rw [valuesEvery, Bool.and_eq_true] at usable
    rw [allMembersSound, isSound_of_usable value usable.1,
      allMembersSound_of_usable rest named.2 usable.2]
    cases name with
    | text _ => rfl
    | _ => cases named.1

end

end Tree

namespace Reader

open Attempt

/-! ### Reading what can be read -/

/-- What is read if no item is stray. -/
def unlessStray {α : Type} (stray : Option Tree) (value : α) : Attempt Error α :=
  stray.elim (pure value) fun item => throw (mismatch item "a scalar")

/-- An item is read if it is a text. -/
theorem nodeItem_eq (item : Tree) :
    nodeItem item = if item.isText then pure item.asNode else throw (mismatch item "a scalar") := by
  cases item <;> rfl

/-- **Items are read if they are texts**; of others the first one is reported. -/
theorem mapM_nodeItem (items : List Tree) :
    items.mapM nodeItem
      = unlessStray (items.find? fun item => !item.isText) (Tree.itemNodes items) := by
  induction items with
  | nil => rfl
  | cons item rest ih =>
    rw [List.mapM_cons, List.find?_cons, ih, nodeItem_eq]
    cases item.isText with
    | false => rfl
    | true => cases rest.find? fun item => !item.isText <;> rfl

mutual

/-- **What can be read** is read as the node that it says, unless an item is stray. -/
theorem node_eq : ∀ (tree : Tree) (levels : Nat), tree.every Tree.isUsable = true →
    tree.depth ≤ levels → node tree levels = unlessStray tree.strayItem? tree.asNode
  | .null, _, _, _ => rfl
  | .flag _, _, _, _ => rfl
  | .number (.integer _), _, _, _ => rfl
  | .number (.real _), _, _, _ => rfl
  | .text _, _, _, _ => rfl
  -- without a level left a collection would be too deep
  | .array items, levels + 1, _, _ => by
    rw [node, enter, mapM_nodeItem, Tree.strayItem?, Tree.asNode]
    cases items.find? fun item => !item.isText <;> rfl
  | .object members, levels + 1, usable, enough => by
    rw [Tree.every, Tree.isUsable, Bool.and_eq_true] at usable
    rw [Tree.depth, Nat.add_le_add_iff_right] at enough
    rw [node, nodeMembers_eq members levels usable.1 usable.2 enough, Tree.strayItem?, Tree.asNode]
    cases Tree.strayWithin? members <;> rfl

theorem nodeMembers_eq : ∀ (members : List (Tree × Tree)) (levels : Nat),
    members.all (fun member => member.1.isText) = true →
      Tree.valuesEvery Tree.isUsable members = true → Tree.valuesDepth members ≤ levels →
        nodeMembers members levels
          = unlessStray (Tree.strayWithin? members) (Tree.memberNodes members)
  | [], _, _, _, _ => rfl
  | (.text name, value) :: rest, levels, named, usable, enough => by
    rw [List.all_cons, Bool.and_eq_true] at named
    rw [Tree.valuesEvery, Bool.and_eq_true] at usable
    rw [Tree.valuesDepth, Nat.max_le] at enough
    rw [nodeMembers, node_eq value levels usable.1 enough.1,
      nodeMembers_eq rest levels named.2 usable.2 enough.2, Tree.strayWithin?, Tree.memberNodes]
    cases value.strayItem? with
    | some item => rfl
    | none => cases Tree.strayWithin? rest <;> rfl

end

/-! ### What has been read -/

theorem texts_of_mapM_nodeItem {items : List Tree} {nodes : List Node}
    (given : (items.mapM nodeItem).outcome.value = .ok nodes) : items.all Tree.isText = true := by
  rw [mapM_nodeItem] at given
  cases stray : items.find? fun item => !item.isText with
  | some item =>
    rw [stray] at given
    cases given
  | none =>
    rw [List.find?_eq_none] at stray
    rw [List.all_eq_true]
    exact fun item held => by simpa using stray item held

mutual

/-- **What has been read** was usable, and there were levels enough for it. -/
theorem usable_of_node : ∀ (tree : Tree) (levels : Nat) {found : Node},
    (node tree levels).outcome.value = .ok found →
      tree.every Tree.isUsable = true ∧ tree.depth ≤ levels
  | .null, _, _, _ => ⟨rfl, Nat.zero_le _⟩
  | .flag _, _, _, _ => ⟨rfl, Nat.zero_le _⟩
  | .number (.integer _), _, _, _ => ⟨rfl, Nat.zero_le _⟩
  | .number (.real _), _, _, _ => ⟨rfl, Nat.zero_le _⟩
  | .text _, _, _, _ => ⟨rfl, Nat.zero_le _⟩
  -- of an array only the items are looked at, and texts have no depth
  | .array items, levels + 1, found, given => by
    rw [node, enter, map_eq_pure_bind] at given
    obtain ⟨nodes, items_given, -⟩ := exists_of_bind_ok given
    have texts := texts_of_mapM_nodeItem items_given
    rw [Tree.every, Tree.depth, Tree.itemsEvery_of_texts (fun _ => rfl) texts,
      Tree.itemsDepth_of_texts texts]
    exact ⟨rfl, Nat.le_add_left 1 levels⟩
  | .object members, levels + 1, found, given => by
    rw [node, map_eq_pure_bind] at given
    obtain ⟨content, members_given, -⟩ := exists_of_bind_ok given
    obtain ⟨named, usable, enough⟩ := usable_of_nodeMembers members levels members_given
    rw [Tree.every, Tree.isUsable, named, usable, Tree.depth]
    exact ⟨rfl, Nat.add_le_add_right enough 1⟩

theorem usable_of_nodeMembers : ∀ (members : List (Tree × Tree)) (levels : Nat)
    {content : List Node}, (nodeMembers members levels).outcome.value = .ok content →
      members.all (fun member => member.1.isText) = true
        ∧ Tree.valuesEvery Tree.isUsable members = true ∧ Tree.valuesDepth members ≤ levels
  | [], _, _, _ => ⟨rfl, rfl, Nat.zero_le _⟩
  | (.text name, value) :: rest, levels, content, given => by
    rw [nodeMembers] at given
    obtain ⟨found, first, given⟩ := exists_of_bind_ok given
    obtain ⟨others, second, -⟩ := exists_of_bind_ok given
    obtain ⟨usable, enough⟩ := usable_of_node value levels first
    obtain ⟨named, usable', enough'⟩ := usable_of_nodeMembers rest levels second
    rw [List.all_cons, named, Tree.valuesEvery, usable, usable', Tree.valuesDepth]
    exact ⟨rfl, rfl, Nat.max_le.2 ⟨enough, enough'⟩⟩

end

end Reader

/-! ### Whole texts -/

theorem read_eq_ok_iff {α : Type} {reader : Reader α} {text : String} {value : α} :
    (read reader text).outcome.value = .ok value
      ↔ (Tree.ofText text).2 = true
        ∧ (reader maxDepth (Tree.ofText text).1).outcome.value = .ok value := by
  rw [read]
  generalize Tree.ofText text = parsed
  obtain ⟨tree, complete⟩ := parsed
  rw [Attempt.value_bind]
  cases (reader maxDepth tree).outcome.value with
  | error error =>
    refine iff_of_false nofun fun both => ?_
    cases both.2
  | ok found =>
    cases complete with
    | false =>
      refine iff_of_false nofun fun both => ?_
      cases both.1
    | true => exact ⟨fun given => ⟨rfl, given⟩, And.right⟩

/-- **Nodes from JSON texts.**  A text is read as a node exactly if it is well formed, all of it
is usable, it is not nested too deep, and its arrays list nothing but texts; and then it is the
node that its tree says.  Where just the last is wrong, the first item that is no text is
reported, be it an array, an object, a number, a boolean or null. -/
theorem read_node (text : String) :
    (∀ found, (read (Decoder.node : Reader Node) text).outcome.value = .ok found
        ↔ isWellFormed text = true ∧ (Tree.ofText text).1.every Tree.isUsable = true
          ∧ (Tree.ofText text).1.depth ≤ maxDepth
          ∧ (Tree.ofText text).1.every Tree.listsTexts = true
          ∧ found = (Tree.ofText text).1.asNode)
      ∧ ((Tree.ofText text).1.every Tree.isUsable = true →
          (Tree.ofText text).1.depth ≤ maxDepth → ∀ item,
            (Tree.ofText text).1.strayItem? = some item →
              (read (Decoder.node : Reader Node) text).outcome.value
                = .error (Reader.mismatch item "a scalar")) := by
  constructor
  · intro found
    rw [read_eq_ok_iff, ← Tree.strayItem?_eq_none_iff, isWellFormed, Bool.and_eq_true]
    show _ ∧ (Reader.node (Tree.ofText text).1 maxDepth).outcome.value = .ok found ↔ _
    constructor
    · rintro ⟨complete, given⟩
      obtain ⟨usable, enough⟩ := Reader.usable_of_node _ _ given
      rw [Reader.node_eq _ _ usable enough] at given
      -- a stray item would have been reported
      cases stray : (Tree.ofText text).1.strayItem? with
      | some item =>
        rw [stray] at given
        cases given
      | none =>
        rw [stray] at given
        cases given
        exact ⟨⟨Tree.isSound_of_usable _ usable, complete⟩, usable, enough, rfl, rfl⟩
    · rintro ⟨⟨-, complete⟩, usable, enough, straight, rfl⟩
      rw [Reader.node_eq _ _ usable enough, straight]
      exact ⟨complete, rfl⟩
  · intro usable enough item stray
    rw [read, Attempt.value_bind]
    show (Reader.node (Tree.ofText text).1 maxDepth).outcome.value >>= _ = _
    rw [Reader.node_eq _ _ usable enough, stray]
    rfl

/-- **A boolean in an array is refused**, in a JSON text with which nothing else is wrong; as YAML
the same text is read, and the boolean is its text. -/
theorem read_node_refused :
    isWellFormed "\x7b\"A\":[true]\x7d" = true
      ∧ (Tree.ofText "\x7b\"A\":[true]\x7d").1.every Tree.isUsable = true
      ∧ (Tree.ofText "\x7b\"A\":[true]\x7d").1.depth ≤ maxDepth
      ∧ (Tree.ofText "\x7b\"A\":[true]\x7d").1.every Tree.listsSingles = true
      ∧ (read (Decoder.node : Reader Node) "\x7b\"A\":[true]\x7d").outcome.value
        = .error (.data (.wrongType (.flag true) "a scalar"))
      ∧ (Yaml.read (Decoder.node : Yaml.Reader Node) "\x7b\"A\":[true]\x7d").outcome.value
        = .ok (.mapping .plain [.scalar "A", .sequence [.scalar "true"]]) := by
  have parsed : Tree.ofText "\x7b\"A\":[true]\x7d"
      = (.object [(.text "A", .array [.flag true])], true) := by cbv
  rw [isWellFormed, read, parsed]
  refine ⟨rfl, rfl, by decide, rfl, rfl, ?_⟩
  cbv

end BreakCheck.Json

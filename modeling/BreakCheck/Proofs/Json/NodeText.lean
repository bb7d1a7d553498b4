/-
BreakCheck/Proofs/Json/NodeText.lean

Nodes as JSON text, nodes made by hand included.

A mapping is a flat list of keys and values, so the last key may have no value; it is then
written with the value null.  But the mapping announces half as many entries as it has
children, rounded down, and of a mapping with one child that is none.  Such a mapping strays
from what it announces, and no other does (`strays_toData`).

Main result: `write_node`.  Compact text comes of a node exactly if its keys are scalars; it
is JSON, and says what the node says, exactly if no mapping has just one child, and just then
the node can also be set out.
-/
import BreakCheck.Proofs.Json.WellFormed
import Mathlib

namespace BreakCheck

namespace Node

/-! ### What a node says as JSON -/

/-- Whether a node is a scalar. -/
def isScalar : Node → Bool
  | scalar _ => true
  | _ => false

mutual

/-- The JSON tree that says what a node says. -/
def jsonTree : Node → Json.Tree
  | null => .null
  | scalar text => .text text
  | sequence items => .array (itemTrees items)
  | mapping _ content => .object (memberTrees content)

/-- The items of a sequence, in their order. -/
def itemTrees : List Node → List Json.Tree
  | [] => []
  | item :: rest => item.jsonTree :: itemTrees rest

/-- Keys and values in their order; a key without a value has the value null. -/
def memberTrees : List Node → List (Json.Tree × Json.Tree)
  | [] => []
  | [key] => [(key.jsonTree, .null)]
  | key :: value :: rest => (key.jsonTree, value.jsonTree) :: memberTrees rest

end

mutual

/-- Whether every key of every mapping is a scalar. -/
def keysAreScalars : Node → Bool
  | null => true
  | scalar _ => true
  | sequence items => itemKeysAreScalars items
  | mapping _ content => contentKeysAreScalars content

/-- Whether all keys within the items are scalars. -/
def itemKeysAreScalars : List Node → Bool
  | [] => true
  | item :: rest => item.keysAreScalars && itemKeysAreScalars rest

/-- Whether all keys are scalars, and all keys within the values. -/
def contentKeysAreScalars : List Node → Bool
  | [] => true
  | [key] => key.isScalar
  | key :: value :: rest => (key.isScalar && value.keysAreScalars) && contentKeysAreScalars rest

end

mutual

/-- Whether any mapping has just one child, a key without a value. -/
def hasLoneKey : Node → Bool
  | null => false
  | scalar _ => false
  | sequence items => itemsHaveLoneKey items
  | mapping _ content => content.length == 1 || valuesHaveLoneKey content

/-- Whether any mapping within the items has just one child. -/
def itemsHaveLoneKey : List Node → Bool
  | [] => false
  | item :: rest => item.hasLoneKey || itemsHaveLoneKey rest

/-- Whether any mapping within the values has just one child. -/
def valuesHaveLoneKey : List Node → Bool
  | [] => false
  | [_] => false
  | _ :: value :: rest => value.hasLoneKey || valuesHaveLoneKey rest

end

/-! ### Nodes as data -/

mutual

/-- The data of a node says what the node says. -/
theorem jsonTree_toData : ∀ node : Node, node.toData.jsonTree = node.jsonTree
  | null => rfl
  | scalar _ => rfl
  | sequence items => by
    rw [toData, Data.jsonTree, jsonTree, itemJsonTrees_itemData items]
  | mapping _ content => by
    rw [toData, Data.jsonTree, jsonTree, entryJsonTrees_entryData content]

theorem itemJsonTrees_itemData : ∀ items : List Node,
    Data.itemJsonTrees (itemData items) = itemTrees items
  | [] => rfl
  | item :: rest => by
    rw [itemData, Data.itemJsonTrees, itemTrees, jsonTree_toData item,
      itemJsonTrees_itemData rest]

theorem entryJsonTrees_entryData : ∀ content : List Node,
    Data.entryJsonTrees (entryData content) = memberTrees content
  | [] => rfl
  | [key] => by
    rw [entryData, Data.entryJsonTrees, memberTrees, jsonTree_toData key]
    rfl
  | key :: value :: rest => by
    rw [entryData, Data.entryJsonTrees, memberTrees, jsonTree_toData key, jsonTree_toData value,
      entryJsonTrees_entryData rest]

end

/-- The data of a node is a text exactly if the node is a scalar. -/
theorem isText_toData (node : Node) : node.toData.isText = node.isScalar := by
  cases node <;> rfl

mutual

/-- The names of the data are texts exactly if the keys of the node are scalars. -/
theorem namesAreTexts_toData : ∀ node : Node, node.toData.namesAreTexts = node.keysAreScalars
  | null => rfl
  | scalar _ => rfl
  | sequence items => by
    rw [toData, Data.namesAreTexts, keysAreScalars, itemNamesAreTexts_itemData items]
  | mapping _ content => by
    rw [toData, Data.namesAreTexts, keysAreScalars, entryNamesAreTexts_entryData content]

theorem itemNamesAreTexts_itemData : ∀ items : List Node,
    Data.itemNamesAreTexts (itemData items) = itemKeysAreScalars items
  | [] => rfl
  | item :: rest => by
    rw [itemData, Data.itemNamesAreTexts, itemKeysAreScalars, namesAreTexts_toData item,
      itemNamesAreTexts_itemData rest]

theorem entryNamesAreTexts_entryData : ∀ content : List Node,
    Data.entryNamesAreTexts (entryData content) = contentKeysAreScalars content
  | [] => rfl
  | [key] => by
    rw [entryData, Data.entryNamesAreTexts, contentKeysAreScalars, isText_toData key]
    cases key.isScalar <;> rfl
  | key :: value :: rest => by
    rw [entryData, Data.entryNamesAreTexts, contentKeysAreScalars, isText_toData key,
      namesAreTexts_toData value, entryNamesAreTexts_entryData rest]

end

/-- Half as many entries as there are children are none although there are children only if
there is just one child. -/
theorem announced_eq_zero_iff (content : List Node) :
    (content.length / 2 = 0 ∧ entryData content ≠ []) ↔ content.length = 1 := by
  match content with
  | [] => simp [entryData]
  | [key] => simp [entryData]
  | key :: value :: rest => simp [entryData]

mutual

/-- **A mapping strays** from what it announces exactly if it has just one child. -/
theorem strays_toData : ∀ node : Node, node.toData.strays = 0 ↔ node.hasLoneKey = false
  | null => by simp [toData, Data.strays, hasLoneKey]
  | scalar _ => by simp [toData, Data.strays, hasLoneKey]
  | sequence items => by
    rw [toData, Data.strays, hasLoneKey, itemStrays_itemData items]
  | mapping _ content => by
    rw [toData, Data.strays, hasLoneKey, Bool.or_eq_false_iff, Nat.add_eq_zero_iff,
      entryStrays_entryData content, beq_eq_false_iff_ne]
    refine and_congr_left' ?_
    by_cases lone : content.length = 1
    · rw [if_pos ((announced_eq_zero_iff content).mpr lone)]
      exact iff_of_false Nat.one_ne_zero (not_not_intro lone)
    · rw [if_neg (mt (announced_eq_zero_iff content).mp lone)]
      exact iff_of_true rfl lone

theorem itemStrays_itemData : ∀ items : List Node,
    Data.itemStrays (itemData items) = 0 ↔ itemsHaveLoneKey items = false
  | [] => by simp [itemData, Data.itemStrays, itemsHaveLoneKey]
  | item :: rest => by
    rw [itemData, Data.itemStrays, itemsHaveLoneKey, Bool.or_eq_false_iff, Nat.add_eq_zero_iff,
      strays_toData item, itemStrays_itemData rest]

theorem entryStrays_entryData : ∀ content : List Node,
    Data.entryStrays (entryData content) = 0 ↔ valuesHaveLoneKey content = false
  | [] => by simp [entryData, Data.entryStrays, valuesHaveLoneKey]
  | [key] => by simp [entryData, Data.entryStrays, Data.strays, valuesHaveLoneKey]
  | key :: value :: rest => by
    rw [entryData, Data.entryStrays, valuesHaveLoneKey, Bool.or_eq_false_iff,
      Nat.add_eq_zero_iff, strays_toData value, entryStrays_entryData rest]

end

/-! ### Writing -/

/-- JSON can say what a node says if its keys are scalars and no mapping has just one child. -/
theorem bearsJson_toData_iff (node : Node) :
    node.toData.bearsJson = true ↔ node.keysAreScalars = true ∧ node.hasLoneKey = false := by
  rw [Data.bearsJson_iff, namesAreTexts_toData, strays_toData]

/-- **Nodes as JSON text.**  Compact text is written exactly if every key is a scalar; to be set
out, a node may have no mapping with just one child besides.  Whatever is written, in either
style, is JSON exactly if no mapping has just one child, and just then it is the text of what
the node says, in order and with repeated keys. -/
theorem write_node (node : Node) :
    ((∃ text, Json.write .compact node.toData = .ok text) ↔ node.keysAreScalars = true)
      ∧ ((∃ text, Json.write .pretty node.toData = .ok text)
        ↔ node.keysAreScalars = true ∧ node.hasLoneKey = false)
      ∧ ∀ style text, Json.write style node.toData = .ok text →
        (Json.isWellFormed text = true ↔ node.hasLoneKey = false)
          ∧ (Json.Tree.ofText text = (node.jsonTree, true) ↔ node.hasLoneKey = false) := by
  refine ⟨?_, ?_, ?_⟩
  · rw [Json.exists_write_compact_iff, namesAreTexts_toData]
  · rw [Json.exists_write_pretty_iff, bearsJson_toData_iff]
  · intro style text written
    obtain ⟨wellFormed, read⟩ := Json.isWellFormed_iff written
    rw [strays_toData] at wellFormed read
    rw [jsonTree_toData] at read
    exact ⟨wellFormed, read⟩

/-- Of a mapping with a key and nothing else the object is closed in front of the key. -/
theorem write_lone_key :
    (mapping .plain [scalar "a"]).keysAreScalars = true
      ∧ Json.write .compact (mapping .plain [scalar "a"]).toData = .ok "\x7b\x7d,\"a\":null\x7d"
      ∧ Json.isWellFormed "\x7b\x7d,\"a\":null\x7d" = false := by
  refine ⟨rfl, by decide, ?_⟩
  cbv

end Node

end BreakCheck

/-
BreakCheck/Proofs/Data/Fields.lean

Fields of a record, found again by their names.

A record leaves out what is empty, so which value stands where depends on the
others.  Looking a field up by its name does not: of the fields put one behind
the other, only the one with that name answers, with nothing if it was left out.
Hence the tree of a record tells every field apart (`lookup_eq_of_jsonTree_eq`),
and an empty field is told apart from any other (`textsField_inj`, …).
-/
import BreakCheck.Proofs.Json.RoundTrip

namespace BreakCheck.Data

/-! ### Looking up -/

/-- A field with texts is there under its own name, unless there are no texts. -/
theorem lookup_textsField (key name : String) (values : List String) :
    (textsField key values).lookup name
      = if name = key ∧ values ≠ [] then some (texts values) else none := by
  unfold textsField
  by_cases none : values.isEmpty = true
  · simp [List.isEmpty_iff.1 none]
  · have some : values ≠ [] := by simpa using none
    by_cases same : name = key <;> simp [some, same]

/-- A field with a text is there under its own name, unless the text is empty. -/
theorem lookup_textField (key name value : String) :
    (textField key value).lookup name
      = if name = key ∧ value ≠ "" then some (text value) else none := by
  unfold textField
  by_cases none : value.isEmpty = true
  · simp [String.isEmpty_iff.1 none]
  · have some : value ≠ "" := by simpa using none
    by_cases same : name = key <;> simp [some, same]

/-- A field with items is there under its own name, unless there are none. -/
theorem lookup_listField (key name : String) (items : List Data) :
    (listField key items).lookup name
      = if name = key ∧ items ≠ [] then some (list items) else none := by
  unfold listField
  by_cases none : items.isEmpty = true
  · simp [List.isEmpty_iff.1 none]
  · have some : items ≠ [] := by simpa using none
    by_cases same : name = key <;> simp [some, same]

/-- A flag is there under its own name if it is set. -/
theorem lookup_flagField (key name : String) (value : Bool) :
    (flagField key value).lookup name
      = if name = key ∧ value = true then some (flag true) else none := by
  cases value <;> by_cases same : name = key <;> simp [flagField, same]

/-! ### Trees of fields -/

/-- A record is an object with the same names in the same order. -/
theorem jsonTree_record (fields : List (String × Data)) :
    (record fields).jsonTree
      = .object (fields.map fun field => (.text field.1, field.2.jsonTree)) := by
  rw [record, jsonTree, entryJsonTrees_eq_map, List.map_map]
  rfl

/-- **Fields are found in the tree**: records with the same tree have the same
trees under every name. -/
theorem lookup_eq_of_jsonTree_eq {fields fields' : List (String × Data)}
    (same : (record fields).jsonTree = (record fields').jsonTree) (name : String) :
    (fields.lookup name).map jsonTree = (fields'.lookup name).map jsonTree := by
  rw [jsonTree_record, jsonTree_record, Json.Tree.object.injEq] at same
  induction fields generalizing fields' with
  | nil =>
    cases fields' with
    | nil => rfl
    | cons field' rest' => cases same
  | cons field rest ih =>
    cases fields' with
    | nil => cases same
    | cons field' rest' =>
      obtain ⟨key, value⟩ := field
      obtain ⟨key', value'⟩ := field'
      simp only [List.map_cons, List.cons.injEq, Prod.mk.injEq, Json.Tree.text.injEq] at same
      obtain ⟨⟨rfl, equal⟩, same⟩ := same
      rw [List.lookup_cons, List.lookup_cons]
      split
      · exact congrArg some equal
      · exact ih same

/-! ### Telling values apart -/

/-- Texts can be told from their tree. -/
theorem texts_inj {values values' : List String}
    (same : (texts values).jsonTree = (texts values').jsonTree) : values = values' := by
  rw [texts, texts, jsonTree, jsonTree, Json.Tree.array.injEq, itemJsonTrees_eq_map,
    itemJsonTrees_eq_map, List.map_map, List.map_map] at same
  refine (List.map_inj_right ?_).1 same
  intro value value' equal
  exact Json.Tree.text.inj equal

/-- **Whether a field with texts is left out or not, its texts can be told from the tree.** -/
theorem textsField_inj {values values' : List String}
    (same : (if values ≠ [] then some (texts values) else none).map jsonTree
      = (if values' ≠ [] then some (texts values') else none).map jsonTree) :
    values = values' := by
  by_cases none : values = [] <;> by_cases none' : values' = [] <;>
    simp only [none, none', ne_eq, not_true_eq_false, not_false_eq_true, if_true, if_false,
      Option.map_some, Option.map_none, Option.some.injEq, reduceCtorEq] at same ⊢
  exact texts_inj same

theorem textField_inj {value value' : String}
    (same : (if value ≠ "" then some (text value) else none).map jsonTree
      = (if value' ≠ "" then some (text value') else none).map jsonTree) :
    value = value' := by
  by_cases none : value = "" <;> by_cases none' : value' = "" <;>
    simp only [none, none', ne_eq, not_true_eq_false, not_false_eq_true, if_true, if_false,
      Option.map_some, Option.map_none, Option.some.injEq, reduceCtorEq] at same ⊢
  exact Json.Tree.text.inj same

theorem listField_inj {items items' : List Data}
    (same : (if items ≠ [] then some (list items) else none).map jsonTree
      = (if items' ≠ [] then some (list items') else none).map jsonTree) :
    items.map jsonTree = items'.map jsonTree := by
  by_cases none : items = [] <;> by_cases none' : items' = [] <;>
    simp only [none, none', ne_eq, not_true_eq_false, not_false_eq_true, if_true, if_false,
      Option.map_some, Option.map_none, Option.some.injEq, reduceCtorEq] at same ⊢
  rw [jsonTree, jsonTree, Json.Tree.array.injEq, itemJsonTrees_eq_map, itemJsonTrees_eq_map]
    at same
  exact same

/-- A flag can be told from whether it is there. -/
theorem flagField_inj {value value' : Bool}
    (same : (if value = true then some (flag true) else none).map jsonTree
      = (if value' = true then some (flag true) else none).map jsonTree) :
    value = value' := by
  cases value <;> cases value' <;> simp_all

end BreakCheck.Data

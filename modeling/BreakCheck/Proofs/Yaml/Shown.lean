/-
BreakCheck/Proofs/Yaml/Shown.lean

The data that a YAML document shows, and what readers make of it.

The same data can be written in many ways: a text in any style, a list over any
number of lines, with tags or without.  `Tree.data?` forgets how a tree was written.
A tree that is not whole, refers to other trees or holds numbers shows nothing.

Readers see no more than that (`Reader.Reads`).  A record is read field by field:
`Reader.Fills` says how the entries of a record change a value, and is carried
from the entries of one field to those of several by `Fills.append`.
-/
import BreakCheck.Data
import BreakCheck.Yaml.Reading
import BreakCheck.Yaml.Writing
import Mathlib.Data.List.Nodup

namespace BreakCheck.Yaml

/-! ### What a tree shows -/

/-- The data of a scalar that is a text or a flag. -/
def scalarData? (style : ScalarStyle) (tag : Option Tag) (text : String) : Option Data :=
  match meaning style tag text with
  | .ok (.text text) => some (.text text)
  | .ok (.flag value) => if Reader.mayBeFlag style tag then some (.flag value) else none
  | _ => none

namespace Tree

mutual

/-- The data of a tree of texts, flags, lists and maps. -/
def data? : Tree → Option Data
  | scalar style tag text => scalarData? style tag text
  | sequence _ items => (itemData? items).map Data.list
  | mapping _ entries => (entryData? entries).map fun shown => .map shown.length shown
  | _ => none

/-- The data of the items of a sequence. -/
def itemData? : List Tree → Option (List Data)
  | [] => some []
  | item :: rest => do
    let first ← item.data?
    let others ← itemData? rest
    some (first :: others)

/-- The data of the entries of a mapping. -/
def entryData? : List (Tree × Tree) → Option (List (Data × Data))
  | [] => some []
  | (key, value) :: rest => do
    let name ← key.data?
    let held ← value.data?
    let others ← entryData? rest
    some ((name, held) :: others)

end

/-- Whether the entries of a mapping show the fields of a record. -/
def ShowsFields (entries : List (Tree × Tree)) (fields : List (String × Data)) : Prop :=
  entryData? entries = some (fields.map fun (key, value) => (Data.text key, value))

end Tree

/-! ### Meanings of scalars -/

/-- A word for an integer means one, of sixty-four bits or wider. -/
theorem integer?_cases {text : List Char} {meant : Meaning} (found : integer? text = some meant) :
    (∃ value, meant = .integer value) ∨ ∃ value signed, meant = .wideInteger value signed := by
  unfold integer? at found
  repeat' split at found
  all_goals cases found
  · exact .inl ⟨_, rfl⟩
  · exact .inr ⟨_, _, rfl⟩
  · exact .inl ⟨_, rfl⟩
  · exact .inr ⟨_, _, rfl⟩

/-- What a plain scalar without a tag can mean. -/
theorem plainMeaning_cases (text : String) :
    plainMeaning text = .null
      ∨ (∃ value, flagOf? text = some value ∧ plainMeaning text = .flag value)
      ∨ integer? text.toList = some (plainMeaning text)
      ∨ (∃ value, plainMeaning text = .number value)
      ∨ ((text.isEmpty || isNull text) = false ∧ plainMeaning text = .text text) := by
  simp only [plainMeaning]
  split
  next => exact .inl rfl
  next present =>
    right
    split
    next value flag => exact .inl ⟨value, flag, rfl⟩
    next =>
      right
      split
      next meant found => exact .inl found
      next =>
        right
        split
        next value _ => exact .inl ⟨value, rfl⟩
        next => exact .inr ⟨by simpa using present, rfl⟩

/-- What a common tag can make of a text. -/
theorem taggedMeaning_cases {tag : Tag} {text : String} {meant : Meaning}
    (means : taggedMeaning tag text = .ok meant) :
    meant = .null
      ∨ (∃ value, flagOf? text = some value ∧ meant = .flag value)
      ∨ integer? text.toList = some meant
      ∨ (∃ value, meant = .number value)
      ∨ (tag ≠ .common "null" ∧ meant = .text text) := by
  simp only [taggedMeaning] at means
  split at means
  next =>
    right; left
    cases found : flagOf? text with
    | none => rw [found] at means; cases means
    | some value => rw [found] at means; cases means; exact ⟨value, rfl, rfl⟩
  next =>
    split at means
    next =>
      right; right; left
      cases found : integer? text.toList with
      | none => rw [found] at means; cases means
      | some value => rw [found] at means; cases means; rfl
    next =>
      split at means
      next =>
        right; right; right; left
        cases found : number? text.toList with
        | none => rw [found] at means; cases means
        | some value => rw [found] at means; cases means; exact ⟨value, rfl⟩
      next =>
        split at means
        next =>
          left
          cases found : isNull text with
          | false => rw [found] at means; cases means
          | true => rw [found] at means; cases means; rfl
        next other =>
          right; right; right; right
          injection means with means
          exact ⟨other, means.symm⟩

/-- A scalar that means a text holds it, and does not stand for a missing value. -/
theorem meaning_eq_text {style : ScalarStyle} {tag : Option Tag} {text held : String}
    (means : meaning style tag text = .ok (.text held)) :
    held = text ∧ Reader.isAbsent style tag text = .ok false := by
  unfold meaning at means
  cases kind : tag.filter fun tag => !tag.isLocal with
  | some forced =>
    rw [kind] at means
    obtain ⟨rfl, -⟩ := Option.filter_eq_some_iff.1 kind
    rcases taggedMeaning_cases means with eq | ⟨_, _, eq⟩ | found | ⟨_, eq⟩ | ⟨other, eq⟩
    · cases eq
    · cases eq
    · rcases integer?_cases found with ⟨_, eq⟩ | ⟨_, _, eq⟩ <;> cases eq
    · cases eq
    · injection eq with same
      exact ⟨same, by simp [Reader.isAbsent, other]⟩
  | none =>
    rw [kind] at means
    by_cases plain : style = .plain
    · rw [if_pos plain] at means
      injection means with means
      rcases plainMeaning_cases text with eq | ⟨_, _, eq⟩ | found | ⟨_, eq⟩ | ⟨present, eq⟩ <;>
        rw [means] at *
      · cases eq
      · cases eq
      · rcases integer?_cases found with ⟨_, eq⟩ | ⟨_, _, eq⟩ <;> cases eq
      · cases eq
      · injection eq with same
        refine ⟨same, ?_⟩
        cases tag with
        | none => simp [Reader.isAbsent, plain, present]
        | some tag =>
          have other : tag ≠ .common "null" := by
            rintro rfl
            revert kind
            decide
          simp [Reader.isAbsent, plain, other]
    · rw [if_neg plain] at means
      injection means with means
      injection means with same
      exact ⟨same.symm, by simp [Reader.isAbsent, plain]⟩

/-- A scalar that means a flag spells it. -/
theorem meaning_eq_flag {style : ScalarStyle} {tag : Option Tag} {text : String} {value : Bool}
    (means : meaning style tag text = .ok (.flag value)) : flagOf? text = some value := by
  unfold meaning at means
  split at means
  next =>
    rcases taggedMeaning_cases means with eq | ⟨_, spelled, eq⟩ | found | ⟨_, eq⟩ | ⟨_, eq⟩
    · cases eq
    · cases eq
      exact spelled
    · rcases integer?_cases found with ⟨_, eq⟩ | ⟨_, _, eq⟩ <;> cases eq
    · cases eq
    · cases eq
  next =>
    injection means with means
    split at means
    · rcases plainMeaning_cases text with eq | ⟨_, spelled, eq⟩ | found | ⟨_, eq⟩ | ⟨_, eq⟩ <;>
        rw [means] at *
      · cases eq
      · cases eq
        exact spelled
      · rcases integer?_cases found with ⟨_, eq⟩ | ⟨_, _, eq⟩ <;> cases eq
      · cases eq
      · cases eq
    · cases means

/-! ### Trees told from their data -/

namespace Tree

/-- A scalar that shows a text is one that holds it and means it. -/
theorem of_data?_eq_text {tree : Tree} {text : String} (shown : tree.data? = some (.text text)) :
    ∃ style tag, tree = .scalar style tag text ∧ meaning style tag text = .ok (.text text) := by
  cases tree with
  | scalar style tag held =>
    rw [data?, scalarData?] at shown
    split at shown
    next meant means =>
      cases shown
      obtain ⟨rfl, -⟩ := meaning_eq_text means
      exact ⟨style, tag, rfl, means⟩
    next => split at shown <;> cases shown
    next => cases shown
  | sequence tag items => rw [data?, Option.map_eq_some_iff] at shown; simp at shown
  | mapping tag entries => rw [data?, Option.map_eq_some_iff] at shown; simp at shown
  | reference number => simp [data?] at shown
  | void => simp [data?] at shown
  | cut => simp [data?] at shown

/-- What shows a boolean is a scalar that readers take for that boolean. -/
theorem of_data?_eq_flag {tree : Tree} {value : Bool} (shown : tree.data? = some (.flag value)) :
    ∃ style tag text, tree = .scalar style tag text ∧ Reader.mayBeFlag style tag = true
      ∧ flagOf? text = some value := by
  cases tree with
  | scalar style tag held =>
    rw [data?, scalarData?] at shown
    split at shown
    next => cases shown
    next meant means =>
      split at shown
      next can =>
        cases shown
        exact ⟨style, tag, held, rfl, can, meaning_eq_flag means⟩
      next => cases shown
    next => cases shown
  | sequence tag items => rw [data?, Option.map_eq_some_iff] at shown; simp at shown
  | mapping tag entries => rw [data?, Option.map_eq_some_iff] at shown; simp at shown
  | reference number => simp [data?] at shown
  | void => simp [data?] at shown
  | cut => simp [data?] at shown

theorem scalarData?_ne_list (style : ScalarStyle) (tag : Option Tag) (text : String)
    (shown : List Data) : scalarData? style tag text ≠ some (.list shown) := by
  unfold scalarData?
  split
  · simp
  · split <;> simp
  · simp

theorem scalarData?_ne_map (style : ScalarStyle) (tag : Option Tag) (text : String)
    (announced : Nat) (shown : List (Data × Data)) :
    scalarData? style tag text ≠ some (.map announced shown) := by
  unfold scalarData?
  split
  · simp
  · split <;> simp
  · simp

/-- What shows a list is a sequence whose items show the items. -/
theorem of_data?_eq_list {tree : Tree} {shown : List Data}
    (same : tree.data? = some (.list shown)) :
    ∃ tag items, tree = .sequence tag items ∧ itemData? items = some shown := by
  cases tree with
  | scalar style tag text => exact absurd same (scalarData?_ne_list _ _ _ _)
  | sequence tag items =>
    rw [data?, Option.map_eq_some_iff] at same
    obtain ⟨_, found, eq⟩ := same
    cases eq
    exact ⟨tag, items, rfl, found⟩
  | mapping tag entries => rw [data?, Option.map_eq_some_iff] at same; simp at same
  | reference number => simp [data?] at same
  | void => simp [data?] at same
  | cut => simp [data?] at same

/-- **What shows a record is a mapping whose entries show the fields**, in their order. -/
theorem of_data?_eq_record {tree : Tree} {fields : List (String × Data)}
    (same : tree.data? = some (.record fields)) :
    ∃ tag entries, tree = .mapping tag entries ∧ ShowsFields entries fields := by
  cases tree with
  | scalar style tag text => exact absurd same (scalarData?_ne_map _ _ _ _ _)
  | sequence tag items =>
    rw [data?, Option.map_eq_some_iff] at same
    obtain ⟨_, _, eq⟩ := same
    cases eq
  | mapping tag entries =>
    rw [data?, Option.map_eq_some_iff] at same
    obtain ⟨_, found, eq⟩ := same
    rw [Data.record, Data.map.injEq] at eq
    exact ⟨tag, entries, rfl, by rw [ShowsFields, found, eq.2]⟩
  | reference number => simp [data?] at same
  | void => simp [data?] at same
  | cut => simp [data?] at same

/-- The first item shows the first one of the list. -/
theorem itemData?_cons {items : List Tree} {first : Data} {others : List Data}
    (shown : itemData? items = some (first :: others)) :
    ∃ item rest, items = item :: rest ∧ item.data? = some first
      ∧ itemData? rest = some others := by
  cases items with
  | nil => simp [itemData?] at shown
  | cons item rest =>
    simp only [itemData?, bind, Option.bind_eq_some_iff, Option.some.injEq] at shown
    obtain ⟨_, here, _, there, same⟩ := shown
    injection same with same same'
    subst same same'
    exact ⟨item, rest, rfl, here, there⟩

theorem eq_nil_of_itemData?_eq_nil {items : List Tree} (shown : itemData? items = some []) :
    items = [] := by
  cases items with
  | nil => rfl
  | cons item rest => simp [itemData?, Option.bind_eq_some_iff] at shown

theorem ShowsFields.eq_nil {entries : List (Tree × Tree)} (shows : ShowsFields entries []) :
    entries = [] := by
  cases entries with
  | nil => rfl
  | cons entry rest => simp [ShowsFields, entryData?, Option.bind_eq_some_iff] at shows

/-- The first entry shows the first field: its key the name, its value the value. -/
theorem ShowsFields.cons {entries : List (Tree × Tree)} {name : String} {held : Data}
    {fields : List (String × Data)} (shows : ShowsFields entries ((name, held) :: fields)) :
    ∃ key value rest, entries = (key, value) :: rest ∧ key.data? = some (.text name)
      ∧ value.data? = some held ∧ ShowsFields rest fields := by
  cases entries with
  | nil => simp [ShowsFields, entryData?] at shows
  | cons entry rest =>
    obtain ⟨key, value⟩ := entry
    simp only [ShowsFields, entryData?, bind, Option.bind_eq_some_iff, Option.some.injEq,
      List.map_cons] at shows
    obtain ⟨_, here, _, there, _, others, same⟩ := shows
    injection same with same same'
    injection same with same same''
    subst same same' same''
    exact ⟨key, value, rest, rfl, here, there, others⟩

/-- The entries of several fields are those of the first ones and those of the others. -/
theorem ShowsFields.append {entries : List (Tree × Tree)} {fields fields' : List (String × Data)}
    (shows : ShowsFields entries (fields ++ fields')) :
    ∃ front back, entries = front ++ back ∧ ShowsFields front fields
      ∧ ShowsFields back fields' := by
  induction fields generalizing entries with
  | nil => exact ⟨[], entries, rfl, rfl, shows⟩
  | cons field fields ih =>
    obtain ⟨name, held⟩ := field
    obtain ⟨key, value, rest, rfl, here, there, others⟩ := shows.cons
    obtain ⟨front, back, rfl, first, second⟩ := ih others
    refine ⟨(key, value) :: front, back, rfl, ?_, second⟩
    rw [ShowsFields] at first ⊢
    simp [entryData?, here, there, first]

mutual

/-- A tree that shows something is whole. -/
theorem isWhole_of_data? : ∀ {tree : Tree} {shown : Data}, tree.data? = some shown →
    tree.isWhole = true
  | .scalar .., _, _ => rfl
  | .sequence _ items, _, same => by
    rw [data?, Option.map_eq_some_iff] at same
    obtain ⟨_, found, -⟩ := same
    rw [isWhole, allWhole_of_itemData? found]
  | .mapping _ entries, _, same => by
    rw [data?, Option.map_eq_some_iff] at same
    obtain ⟨_, found, -⟩ := same
    rw [isWhole, allEntriesWhole_of_entryData? found]
  | .reference _, _, _ => rfl
  | .void, _, _ => rfl
  | .cut, _, same => by simp [data?] at same

theorem allWhole_of_itemData? : ∀ {items : List Tree} {shown : List Data},
    itemData? items = some shown → allWhole items = true
  | [], _, _ => rfl
  | item :: rest, _, same => by
    simp only [itemData?, bind, Option.bind_eq_some_iff] at same
    obtain ⟨_, here, _, there, -⟩ := same
    rw [allWhole, isWhole_of_data? here, allWhole_of_itemData? there]
    rfl

theorem allEntriesWhole_of_entryData? : ∀ {entries : List (Tree × Tree)}
    {shown : List (Data × Data)}, entryData? entries = some shown →
    allEntriesWhole entries = true
  | [], _, _ => rfl
  | (key, value) :: rest, _, same => by
    simp only [entryData?, bind, Option.bind_eq_some_iff] at same
    obtain ⟨_, here, _, there, _, others, -⟩ := same
    rw [allEntriesWhole, isWhole_of_data? here, isWhole_of_data? there,
      allEntriesWhole_of_entryData? others]
    rfl

end

end Tree

end BreakCheck.Yaml

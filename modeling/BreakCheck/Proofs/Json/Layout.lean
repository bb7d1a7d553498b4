/-
BreakCheck/Proofs/Json/Layout.lean

The layout of JSON text, for data that JSON can say.

Writing can fail, and where it does not it may leave text that is not JSON: names
have to be texts, and a map that announces no entries may not have any.  Data
that keeps both rules (`Data.bearsJson`) is written without a failure, and its text
is given by a plain recursion on the data (`Json.layout`), to which later proofs
refer.  All values of this library but nodes made by hand keep the rules.

Text that is set out has to keep its indentation besides.  Every map that announces no
entries and has some takes one step back (`indents_indentBehind`), so data that keeps the
rules ends where it started.

Main results: `valueChars_eq_layout` and `write_eq_layout`; and what a section or a
file is written as bears JSON.
-/
import BreakCheck.ConfigFile
import BreakCheck.Proofs.IgnoreOnly.Kept

namespace BreakCheck

/-! ### Data that JSON can say -/

namespace Data

/-- Whether data is a text. -/
def isText : Data → Bool
  | text _ => true
  | _ => false

mutual

/-- Whether JSON can say what the data says. -/
def bearsJson : Data → Bool
  | null => true
  | flag _ => true
  | text _ => true
  | list items => itemsBearJson items
  | map announced entries => (announced != 0 || entries.isEmpty) && entriesBearJson entries
termination_by structural data => data

/-- Whether JSON can say what the items say. -/
def itemsBearJson : List Data → Bool
  | [] => true
  | item :: rest => item.bearsJson && itemsBearJson rest
termination_by structural items => items

/-- Whether JSON can say what the entries say. -/
def entriesBearJson : List (Data × Data) → Bool
  | [] => true
  | (key, value) :: rest => key.isText && value.bearsJson && entriesBearJson rest
termination_by structural entries => entries

end

/-- Items bear JSON if each of them does. -/
theorem itemsBearJson_iff (items : List Data) :
    itemsBearJson items = true ↔ ∀ item ∈ items, item.bearsJson = true := by
  induction items with
  | nil => simp [itemsBearJson]
  | cons item rest ih => simp [itemsBearJson, ih]

/-- Entries bear JSON if every key is a text and every value bears JSON. -/
theorem entriesBearJson_iff (entries : List (Data × Data)) :
    entriesBearJson entries = true
      ↔ ∀ entry ∈ entries, entry.1.isText = true ∧ entry.2.bearsJson = true := by
  induction entries with
  | nil => simp [entriesBearJson]
  | cons entry rest ih => simp [entriesBearJson, ih]

/-! ### What JSON cannot say -/

mutual

/-- Whether every key of every map is a text. -/
def namesAreTexts : Data → Bool
  | null => true
  | flag _ => true
  | text _ => true
  | list items => itemNamesAreTexts items
  | map _ entries => entryNamesAreTexts entries

/-- Whether every key within the items is a text. -/
def itemNamesAreTexts : List Data → Bool
  | [] => true
  | item :: rest => item.namesAreTexts && itemNamesAreTexts rest

/-- Whether every key is a text, and every key within the values. -/
def entryNamesAreTexts : List (Data × Data) → Bool
  | [] => true
  | (key, value) :: rest => (key.isText && value.namesAreTexts) && entryNamesAreTexts rest

end

mutual

/-- How many maps announce no entries and have some. -/
def strays : Data → Nat
  | null => 0
  | flag _ => 0
  | text _ => 0
  | list items => itemStrays items
  | map announced entries =>
    (if announced = 0 ∧ entries ≠ [] then 1 else 0) + entryStrays entries

/-- How many such maps there are within the items. -/
def itemStrays : List Data → Nat
  | [] => 0
  | item :: rest => item.strays + itemStrays rest

/-- How many such maps there are within the values. -/
def entryStrays : List (Data × Data) → Nat
  | [] => 0
  | (_, value) :: rest => value.strays + entryStrays rest

end

mutual

/-- JSON can say what data says if the names are texts and no map strays. -/
theorem bearsJson_eq : ∀ data : Data,
    data.bearsJson = (data.namesAreTexts && data.strays == 0)
  | null => rfl
  | flag _ => rfl
  | text _ => rfl
  | list items => by rw [bearsJson, namesAreTexts, strays, itemsBearJson_eq items]
  | map announced entries => by
    rw [bearsJson, namesAreTexts, strays, entriesBearJson_eq entries]
    cases entries <;> cases announced <;> simp

theorem itemsBearJson_eq : ∀ items : List Data,
    itemsBearJson items = (itemNamesAreTexts items && itemStrays items == 0)
  | [] => rfl
  | item :: rest => by
    rw [itemsBearJson, itemNamesAreTexts, itemStrays, bearsJson_eq item, itemsBearJson_eq rest]
    grind

theorem entriesBearJson_eq : ∀ entries : List (Data × Data),
    entriesBearJson entries = (entryNamesAreTexts entries && entryStrays entries == 0)
  | [] => rfl
  | (key, value) :: rest => by
    rw [entriesBearJson, entryNamesAreTexts, entryStrays, bearsJson_eq value,
      entriesBearJson_eq rest]
    grind

end

theorem bearsJson_iff {data : Data} :
    data.bearsJson = true ↔ data.namesAreTexts = true ∧ data.strays = 0 := by
  rw [bearsJson_eq, Bool.and_eq_true, beq_iff_eq]

/-! ### Texts and records -/

@[simp] theorem bearsJson_text (value : String) : (text value).bearsJson = true := rfl

/-- A list of texts bears JSON. -/
@[simp] theorem bearsJson_texts (values : List String) : (texts values).bearsJson = true := by
  rw [texts, bearsJson, itemsBearJson_iff]
  intro item held
  obtain ⟨value, -, rfl⟩ := List.mem_map.1 held
  rfl

/-- A record bears JSON if its values do. -/
theorem bearsJson_record (fields : List (String × Data)) :
    (record fields).bearsJson = true ↔ ∀ field ∈ fields, field.2.bearsJson = true := by
  have count (entry : String × Data → Data × Data) :
      (fields.length != 0 || (fields.map entry).isEmpty) = true := by
    cases fields <;> simp
  rw [record, bearsJson, count, Bool.true_and, entriesBearJson_iff]
  constructor
  · intro entries field held
    exact (entries (text field.1, field.2) (List.mem_map.2 ⟨field, held, rfl⟩)).2
  · intro values entry held
    obtain ⟨field, known, rfl⟩ := List.mem_map.1 held
    exact ⟨rfl, values field known⟩

/-! ### Fields that may be left out -/

theorem bearsJson_of_mem_textsField {key : String} {values : List String}
    {field : String × Data} (held : field ∈ textsField key values) :
    field.2.bearsJson = true := by
  unfold textsField at held
  split at held
  · cases held
  · rw [List.mem_singleton.1 held]
    exact bearsJson_texts values

theorem bearsJson_of_mem_textField {key value : String} {field : String × Data}
    (held : field ∈ textField key value) : field.2.bearsJson = true := by
  unfold textField at held
  split at held
  · cases held
  · rw [List.mem_singleton.1 held]
    rfl

/-- A field with items bears JSON if the items do. -/
theorem bearsJson_of_mem_listField {key : String} {items : List Data}
    (bear : ∀ item ∈ items, item.bearsJson = true) {field : String × Data}
    (held : field ∈ listField key items) : field.2.bearsJson = true := by
  unfold listField at held
  split at held
  · cases held
  · rw [List.mem_singleton.1 held]
    exact (itemsBearJson_iff items).2 bear

theorem bearsJson_of_mem_flagField {key : String} {value : Bool} {field : String × Data}
    (held : field ∈ flagField key value) : field.2.bearsJson = true := by
  unfold flagField at held
  split at held
  · rw [List.mem_singleton.1 held]
    rfl
  · cases held

end Data

/-- An exemption bears JSON. -/
theorem Exemption.bearsJson_toData (entry : Exemption) : entry.toData.bearsJson = true := by
  rw [Exemption.toData, Data.bearsJson_record]
  intro field held
  rcases List.mem_append.1 held with held | held
  · exact Data.bearsJson_of_mem_textField held
  · exact Data.bearsJson_of_mem_textsField held

/-- Pairs bear JSON, also where all of them are without paths. -/
theorem IgnoreOnly.bearsJson_toData (declared : List Exemption) :
    (IgnoreOnly.toData declared).bearsJson = true := by
  rw [toData_eq_record]
  split
  · rfl
  · rw [Data.bearsJson_record]
    intro field held
    obtain ⟨entry, -, rfl⟩ := List.mem_map.1 held
    exact Data.bearsJson_texts entry.paths

/-- **A section bears JSON**, whichever fields are left out. -/
theorem Section.bearsJson_toData (written : Section) : written.toData.bearsJson = true := by
  rw [Section.toData, Data.bearsJson_record]
  intro field held
  simp only [List.mem_append] at held
  rcases held with (((held | held) | held) | held) | held
  · exact Data.bearsJson_of_mem_textsField held
  · exact Data.bearsJson_of_mem_textsField held
  · exact Data.bearsJson_of_mem_textsField held
  · split at held
    · cases held
    · rw [List.mem_singleton.1 held]
      exact IgnoreOnly.bearsJson_toData written.exemptions
  · exact Data.bearsJson_of_mem_flagField held

/-- **A file bears JSON**, of any version and any configuration. -/
theorem ConfigFile.bearsJson_toData (version : Version) (config : Config) :
    (ConfigFile.toData version config).bearsJson = true := by
  rw [ConfigFile.toData, Data.bearsJson_record]
  simp [Version.toData, Section.bearsJson_toData]

namespace Json

/-! ### The layout -/

/-- A name in quotes. -/
def nameChars : Data → List Char
  | .text name => textChars name
  | _ => []

mutual

/-- A value at the given depth. -/
def layout (style : Style) : Data → Nat → List Char
  | .null, _ => ['n', 'u', 'l', 'l']
  | .flag true, _ => ['t', 'r', 'u', 'e']
  | .flag false, _ => ['f', 'a', 'l', 's', 'e']
  | .text value, _ => textChars value
  | .list [], _ => ['[', ']']
  | .list (item :: rest), depth =>
    '[' :: (style.line (depth + 1) ++ layout style item (depth + 1)
      ++ itemsLayout style rest (depth + 1) ++ style.line depth ++ [']'])
  | .map _ [], _ => ['{', '}']
  | .map _ ((key, value) :: rest), depth =>
    '{' :: (style.line (depth + 1)
      ++ (nameChars key ++ style.colon ++ layout style value (depth + 1))
      ++ entriesLayout style rest (depth + 1) ++ style.line depth ++ ['}'])
termination_by structural value => value

/-- The items of a list after the first one. -/
def itemsLayout (style : Style) : List Data → Nat → List Char
  | [], _ => []
  | item :: rest, depth =>
    ',' :: (style.line depth ++ layout style item depth ++ itemsLayout style rest depth)
termination_by structural items => items

/-- The entries of a map after the first one. -/
def entriesLayout (style : Style) : List (Data × Data) → Nat → List Char
  | [], _ => []
  | (key, value) :: rest, depth =>
    ',' :: (style.line depth ++ (nameChars key ++ style.colon ++ layout style value depth)
      ++ entriesLayout style rest depth)
termination_by structural entries => entries

end

/-- A member is written if its name is a text and its value is written. -/
theorem memberChars_ok (style : Style) {key : Data} (isText : key.isText = true)
    (chars : List Char) :
    memberChars style key (.ok chars) = .ok (nameChars key ++ style.colon ++ chars) := by
  cases key with
  | text name => rfl
  | _ => simp [Data.isText] at isText

mutual

/-- **Data that bears JSON is written**, and the layout is its text. -/
theorem valueChars_eq_layout (style : Style) : ∀ (data : Data) (depth : Nat),
    data.bearsJson = true → valueChars style data depth = .ok (layout style data depth)
  | .null, _, _ => rfl
  | .flag true, _, _ => rfl
  | .flag false, _, _ => rfl
  | .text _, _, _ => rfl
  | .list [], _, _ => rfl
  | .list (item :: rest), depth, bears => by
    rw [Data.bearsJson, Data.itemsBearJson, Bool.and_eq_true] at bears
    rw [valueChars, valueChars_eq_layout style item (depth + 1) bears.1,
      itemChars_eq_layout style rest (depth + 1) bears.2, layout]
    rfl
  | .map _ [], _, _ => rfl
  | .map 0 (entry :: rest), _, bears => absurd bears (by simp [Data.bearsJson])
  | .map (count + 1) ((key, value) :: rest), depth, bears => by
    rw [Data.bearsJson, Data.entriesBearJson, Bool.and_eq_true, Bool.and_eq_true,
      Bool.and_eq_true] at bears
    obtain ⟨-, ⟨isText, value_bears⟩, rest_bear⟩ := bears
    rw [valueChars, valueChars_eq_layout style value (depth + 1) value_bears,
      memberChars_ok style isText, entryChars_eq_layout style rest (depth + 1) rest_bear, layout]
    · rfl
    · simp

/-- Items that bear JSON are written as they are laid out. -/
theorem itemChars_eq_layout (style : Style) : ∀ (items : List Data) (depth : Nat),
    Data.itemsBearJson items = true →
      itemChars style items depth = .ok (itemsLayout style items depth)
  | [], _, _ => rfl
  | item :: rest, depth, bears => by
    rw [Data.itemsBearJson, Bool.and_eq_true] at bears
    rw [itemChars, valueChars_eq_layout style item depth bears.1,
      itemChars_eq_layout style rest depth bears.2, itemsLayout]
    rfl

/-- Entries that bear JSON are written as they are laid out. -/
theorem entryChars_eq_layout (style : Style) : ∀ (entries : List (Data × Data)) (depth : Nat),
    Data.entriesBearJson entries = true →
      entryChars style entries depth = .ok (entriesLayout style entries depth)
  | [], _, _ => rfl
  | (key, value) :: rest, depth, bears => by
    rw [Data.entriesBearJson, Bool.and_eq_true, Bool.and_eq_true] at bears
    obtain ⟨⟨isText, value_bears⟩, rest_bear⟩ := bears
    rw [entryChars, valueChars_eq_layout style value depth value_bears,
      memberChars_ok style isText, entryChars_eq_layout style rest depth rest_bear, entriesLayout]
    rfl

end

/-! ### The indentation of text that is set out -/

/-- **What is known of the indentation behind data**: every name is a text and so many steps have
been taken back; or some name is not a text; or there are not so many steps to take. -/
def Indents (result : Except WriteError Nat) (named : Bool) (indent back : Nat) : Prop :=
  match result with
  | .ok behind => named = true ∧ behind + back = indent
  | .error .keyNotText => named = false
  | .error .lostIndentation => indent < back

section Indents

variable {result : Except WriteError Nat} {named named' : Bool} {indent back back' : Nat}

/-- Steps back add up. -/
theorem Indents.bind (first : Indents result named indent back)
    {next : Nat → Except WriteError Nat}
    (second : ∀ behind, Indents (next behind) named' behind back') :
    Indents (result >>= next) (named && named') indent (back + back') := by
  match result with
  | .error .keyNotText =>
    have unnamed : named = false := first
    rw [unnamed]
    exact rfl
  | .error .lostIndentation => exact Nat.lt_add_right back' first
  | .ok behind =>
    obtain ⟨rfl, rfl⟩ := first
    show Indents (next behind) _ _ _
    have later := second behind
    match found : next behind with
    | .error .keyNotText =>
      rw [found] at later
      exact later
    | .error .lostIndentation =>
      rw [found] at later
      have few : behind < back' := later
      show behind + back < back + back'
      omega
    | .ok last =>
      rw [found] at later
      obtain ⟨named, sum⟩ := later
      exact ⟨named, by omega⟩

/-- A step back is one step back. -/
theorem indents_outdent (indent : Nat) : Indents (outdent indent) true indent 1 := by
  cases indent with
  | zero => exact Nat.zero_lt_one
  | succ indent => exact ⟨rfl, rfl⟩

/-- Closing what has been closed before takes a step back. -/
theorem Indents.closeAgain (inside : Indents result named indent back) :
    Indents (result >>= outdent) named indent (back + 1) := by
  rw [← Bool.and_true named]
  exact inside.bind indents_outdent

/-- Closing takes back the step that opening has made. -/
theorem Indents.close (inside : Indents result named (indent + 1) back) :
    Indents (result >>= outdent) named indent back := by
  have closed := inside.closeAgain
  revert closed
  match result >>= outdent with
  | .error .keyNotText => exact id
  | .error .lostIndentation => exact Nat.lt_of_succ_lt_succ
  | .ok behind => exact fun closed => ⟨closed.1, Nat.succ.inj closed.2⟩

end Indents

mutual

/-- **Every map that strays takes one step back**, and nothing else does. -/
theorem indents_indentBehind : ∀ (data : Data) (indent : Nat),
    Indents (indentBehind data indent) data.namesAreTexts indent data.strays
  | .null, _ => ⟨rfl, rfl⟩
  | .flag _, _ => ⟨rfl, rfl⟩
  | .text _, _ => ⟨rfl, rfl⟩
  | .list items, indent => by
    rw [indentBehind, Data.namesAreTexts, Data.strays]
    exact (indents_indentBehindItems items (indent + 1)).close
  | .map 0 [], _ => ⟨rfl, rfl⟩
  | .map (announced + 1) [], _ => ⟨rfl, rfl⟩
  | .map 0 (entry :: entries), indent => by
    rw [indentBehind, Data.namesAreTexts, Data.strays, if_pos ⟨rfl, List.cons_ne_nil _ _⟩,
      Nat.add_comm]
    · exact (indents_indentBehindEntries (entry :: entries) indent).closeAgain
    · simp
  | .map (announced + 1) (entry :: entries), indent => by
    rw [indentBehind, Data.namesAreTexts, Data.strays,
      if_neg (fun both => Nat.succ_ne_zero announced both.1), Nat.zero_add]
    · exact (indents_indentBehindEntries (entry :: entries) (indent + 1)).close
    · simp
    · simp

/-- The maps within the items take their steps back one after the other. -/
theorem indents_indentBehindItems : ∀ (items : List Data) (indent : Nat),
    Indents (indentBehindItems items indent) (Data.itemNamesAreTexts items) indent
      (Data.itemStrays items)
  | [], _ => ⟨rfl, rfl⟩
  | item :: rest, indent => by
    rw [indentBehindItems, Data.itemNamesAreTexts, Data.itemStrays]
    exact (indents_indentBehind item indent).bind (indents_indentBehindItems rest)

/-- The maps within the values take their steps back, up to the first name that is not a text. -/
theorem indents_indentBehindEntries : ∀ (entries : List (Data × Data)) (indent : Nat),
    Indents (indentBehindEntries entries indent) (Data.entryNamesAreTexts entries) indent
      (Data.entryStrays entries)
  | [], _ => ⟨rfl, rfl⟩
  | (.text _, value) :: rest, indent => by
    rw [indentBehindEntries, Data.entryNamesAreTexts, Data.entryStrays, Data.isText,
      Bool.true_and]
    exact (indents_indentBehind value indent).bind (indents_indentBehindEntries rest)
  | (.null, _) :: _, _ => rfl
  | (.flag _, _) :: _, _ => rfl
  | (.list _, _) :: _, _ => rfl
  | (.map _ _, _) :: _, _ => rfl

end

/-- **Data whose names are texts ends so many steps further out** as maps in it stray, if there
are so many steps to take. -/
theorem indentBehind_eq {data : Data} (named : data.namesAreTexts = true) (indent : Nat) :
    indentBehind data indent
      = if data.strays ≤ indent then .ok (indent - data.strays) else .error .lostIndentation := by
  have known := indents_indentBehind data indent
  rw [named] at known
  match found : indentBehind data indent with
  | .error .keyNotText =>
    rw [found] at known
    cases known
  | .error .lostIndentation =>
    rw [found] at known
    exact (if_neg (Nat.not_le_of_lt known)).symm
  | .ok behind =>
    rw [found] at known
    rw [← known.2, if_pos (Nat.le_add_left _ _), Nat.add_sub_cancel]

/-! ### Writing -/

/-- **The layout is what is written**, in either style. -/
theorem write_eq_layout (style : Style) {data : Data} (bears : data.bearsJson = true) :
    write style data = .ok (String.ofList (layout style data 0)) := by
  cases style with
  | compact =>
    rw [write, valueChars_eq_layout .compact data 0 bears]
    rfl
  | pretty =>
    obtain ⟨named, straight⟩ := Data.bearsJson_iff.1 bears
    rw [write, indentBehind_eq named, straight, valueChars_eq_layout .pretty data 0 bears]
    rfl

end Json

end BreakCheck

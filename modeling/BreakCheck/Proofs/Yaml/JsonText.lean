/-
BreakCheck/Proofs/Yaml/JsonText.lean

JSON texts that are read as YAML.

A text of flat data is whole exactly if three things hold: YAML has all of its
characters, all texts can be read between quotes, and all keys are short.  Each of them
is a matter of the texts in the data, one by one (`Data.isReadable`).

Main results: `isWhole_layout`, and that a whole text shows the data with every text as
it comes back (`data?_layout`).
-/
import BreakCheck.Proofs.Yaml.JsonTree
import BreakCheck.Proofs.Yaml.Reads
import BreakCheck.Proofs.Yaml.Steady
import BreakCheck.Proofs.Yaml.Whole

namespace BreakCheck

namespace Yaml

open Json (escapeChar textChars)
open Scan (isShortKey)

/-- Whether a text that is written as JSON can be read as YAML. -/
def isReadable (text : String) : Bool :=
  (textChars text).all isPrintable && (requote? text).isSome

/-- Whether a text that is written as JSON comes back from YAML: it has no characters
that YAML lacks and JSON leaves as they are, and nothing in it is folded. -/
def comesBack (text : String) : Bool :=
  text.toList.all (fun c => c.toNat < 0x20 || isPrintable c) && isSteady text.toList

/-- Whether a key that is written as JSON comes back from YAML; none does that does not
stay a key. -/
def keyComesBack (name : String) : Bool := comesBack name && isShortKey name

/-! ### Texts that come back -/

/-- What is escaped is printable. -/
theorem all_isPrintable_escapeChar (c : Char) :
    (escapeChar c).all isPrintable = (decide (c.toNat < 0x20) || isPrintable c) := by
  unfold escapeChar
  split
  iterate 7 · decide
  next =>
    split
    next low =>
      have digits : ∀ n < 0x20, ['\\', 'u', '0', '0', Nat.digitChar (n / 16),
          Nat.digitChar (n % 16)].all isPrintable = true := by decide
      rw [digits c.toNat low, decide_eq_true low, Bool.true_or]
    next high =>
      rw [decide_eq_false high, Bool.false_or, List.all_cons, List.all_nil, Bool.and_true]

/-- A text in quotes is printable if its characters are, control characters aside, which are
escaped. -/
theorem all_isPrintable_textChars (text : String) :
    (textChars text).all isPrintable
      = text.toList.all fun c => c.toNat < 0x20 || isPrintable c := by
  have quote : isPrintable '"' = true := by decide
  rw [textChars, List.all_cons, List.all_append, quote, List.all_cons, quote, List.all_nil,
    Bool.true_and, Bool.and_true, List.all_flatMap]
  simp only [all_isPrintable_escapeChar, Bool.and_true]

/-- A text comes back from its quotes as itself exactly if it is steady. -/
theorem requote?_eq_self_iff (text : String) :
    requote? text = some text ↔ isSteady text.toList = true := by
  rw [← requoted?_eq_self_iff, requote?, Option.map_eq_some_iff]
  constructor
  · rintro ⟨read, found, rfl⟩
    rwa [String.toList_ofList] at found ⊢
  · intro found
    exact ⟨_, found, String.ofList_toList⟩

/-- **A text comes back** exactly if it can be read and is read as itself. -/
theorem comesBack_iff (text : String) :
    comesBack text = true ↔ isReadable text = true ∧ requote text = text := by
  have self : requote? text = some text ↔ (requote? text).isSome = true ∧ requote text = text := by
    rw [requote]
    cases requote? text with
    | none => simp
    | some read => simp
  rw [comesBack, isReadable, Bool.and_eq_true, Bool.and_eq_true, all_isPrintable_textChars,
    ← requote?_eq_self_iff, self, and_assoc]

example : comesBack "x\u2028y" = true ∧ comesBack "x\u0085y" = false := by decide +kernel

/-- There is nothing to fold where no line ends. -/
theorem isSteadyAfter_of_noBreak {chars : List Char}
    (noBreak : ∀ c ∈ chars, c ≠ '\u0085' ∧ isSeparator c = false)
    {before : Option Char} (inside : before.any isSeparator = false) :
    isSteadyAfter before chars = true := by
  induction chars generalizing before with
  | nil => rfl
  | cons c rest ih =>
    obtain ⟨noFeed, noSeparator⟩ := noBreak c List.mem_cons_self
    have next : (some c).any isSeparator = false := noSeparator
    have others := ih (fun c held => noBreak c (List.mem_cons_of_mem _ held)) next
    rw [isSteadyAfter, inside, noSeparator, others]
    simp [noFeed]

/-- **A short key is read as itself.** -/
theorem requote_of_isShortKey {name : String} (short : isShortKey name = true) :
    requote name = name := by
  rw [isShortKey, Bool.and_eq_true, Bool.not_eq_true'] at short
  have noBreak : ∀ c ∈ name.toList, c ≠ '\u0085' ∧ isSeparator c = false := by
    intro c held
    have raw : ∀ c' ∈ escapeChar c, isBreak c' = false := by
      intro c' inside
      rw [← Bool.not_eq_true]
      intro breaks
      rw [← Bool.not_eq_true, List.any_eq_true] at short
      refine short.1 ⟨c', ?_, breaks⟩
      simp only [textChars, List.mem_cons, List.mem_append, List.mem_flatMap]
      exact .inr (.inl ⟨c, held, inside⟩)
    constructor
    · rintro rfl
      exact absurd (raw '\u0085' (by decide)) (by decide)
    · rw [← Bool.not_eq_true]
      intro separator
      rw [isSeparator, Bool.or_eq_true, beq_iff_eq, beq_iff_eq] at separator
      rcases separator with rfl | rfl
      · exact absurd (raw '\u2028' (by decide)) (by decide)
      · exact absurd (raw '\u2029' (by decide)) (by decide)
  have same := (requote?_eq_self_iff name).2 (isSteadyAfter_of_noBreak noBreak rfl)
  rw [requote, same]
  rfl

/-- **A key comes back** exactly if it can be read and stays a key. -/
theorem keyComesBack_iff (name : String) :
    keyComesBack name = true ↔ isReadable name = true ∧ isShortKey name = true := by
  rw [keyComesBack, Bool.and_eq_true, comesBack_iff, and_assoc]
  exact and_congr_right fun _ => and_iff_right_of_imp requote_of_isShortKey

/-- Together with its quotes, a key may not be longer than a simple key of YAML. -/
theorem not_isShortKey_of_length {name : String} (long : 1022 < name.toList.length) :
    isShortKey name = false := by
  have bytes : (textChars name).length ≤ byteCount (textChars name) := by
    induction textChars name with
    | nil => exact Nat.le_refl 0
    | cons c rest ih =>
      rw [List.length_cons, byteCount]
      have := c.utf8Size_pos
      omega
  have escaped := length_le_length_escaped name.toList
  have quoted : (textChars name).length = (name.toList.flatMap escapeChar).length + 2 := by
    simp [textChars]
  rw [isShortKey, decide_eq_false (by omega), Bool.and_false]

/-- A key that comes back does so unchanged. -/
theorem requote_of_keyComesBack {name : String} (back : keyComesBack name = true) :
    requote name = name :=
  requote_of_isShortKey ((keyComesBack_iff name).1 back).2

end Yaml

namespace Data

open Yaml (keyComesBack)

mutual

/-- Whether all texts and all keys can be read. -/
def isReadable : Data → Bool
  | text value => Yaml.isReadable value
  | list items => itemsReadable items
  | map _ entries => entriesReadable entries
  | _ => true

/-- Whether all texts of the items of a list can be read. -/
def itemsReadable : List Data → Bool
  | [] => true
  | item :: rest => item.isReadable && itemsReadable rest

/-- Whether all keys of entries can be read, and all texts of their values. -/
def entriesReadable : List (Data × Data) → Bool
  | [] => true
  | (text name, value) :: rest =>
    keyComesBack name && value.isReadable && entriesReadable rest
  | (_, value) :: rest => value.isReadable && entriesReadable rest

end

end Data

namespace Data

open Yaml (keyComesBack requote)

/-! ### Records -/

/-- Whether the name of a field and all texts of its value can be read. -/
def fieldReadable (field : String × Data) : Bool := keyComesBack field.1 && field.2.isReadable

/-- A field with every text as it comes back. -/
def fieldRequoted (field : String × Data) : String × Data := (requote field.1, field.2.requoted)

/-- A record is flat if its values are. -/
theorem isFlat_record (fields : List (String × Data)) :
    (record fields).isFlat = fields.all fun field => field.2.isFlat := by
  rw [record, isFlat]
  induction fields with
  | nil => rfl
  | cons field rest ih => rw [List.map_cons, entriesFlat, ih]; rfl

/-- A record is readable if its fields are, names and values. -/
theorem isReadable_record (fields : List (String × Data)) :
    (record fields).isReadable = fields.all fieldReadable := by
  rw [record, isReadable]
  induction fields with
  | nil => rfl
  | cons field rest ih => rw [List.map_cons, entriesReadable, ih]; rfl

/-- **A record comes back field by field.** -/
theorem requoted_record (fields : List (String × Data)) :
    (record fields).requoted = record (fields.map fieldRequoted) := by
  rw [record, requoted, record, List.length_map, List.length_map]
  congr 1
  induction fields with
  | nil => rfl
  | cons field rest ih => rw [List.map_cons, entriesRequoted, ih]; rfl

/-! ### Fields that may be left out -/

theorem isFlat_texts (values : List String) : (texts values).isFlat = true := by
  rw [texts, isFlat, List.all_map]
  exact List.all_eq_true.2 fun _ _ => rfl

theorem isReadable_texts (values : List String) :
    (texts values).isReadable = values.all Yaml.isReadable := by
  rw [texts, isReadable]
  induction values with
  | nil => rfl
  | cons value rest ih => rw [List.map_cons, itemsReadable, ih, isReadable, List.all_cons]

/-- Texts are requoted one by one. -/
theorem requoted_texts (values : List String) :
    (texts values).requoted = texts (values.map requote) := by
  rw [texts, requoted, texts]
  congr 1
  induction values with
  | nil => rfl
  | cons value rest ih => rw [List.map_cons, itemsRequoted, ih]; rfl

variable {key : String}

theorem flat_textsField (key : String) (values : List String) :
    ((textsField key values).all fun field => field.2.isFlat) = true := by
  unfold textsField
  split
  · rfl
  · simp [isFlat_texts]

/-- A field with texts is readable if the texts are. -/
theorem readable_textsField (name : keyComesBack key = true) (values : List String) :
    (textsField key values).all fieldReadable = values.all Yaml.isReadable := by
  unfold textsField
  split
  next none => rw [List.isEmpty_iff.1 none]; rfl
  · simp [fieldReadable, name, isReadable_texts]

/-- A field with texts keeps its name, and its texts are requoted. -/
theorem requoted_textsField (name : keyComesBack key = true) (values : List String) :
    (textsField key values).map fieldRequoted = textsField key (values.map requote) := by
  unfold textsField
  rw [List.isEmpty_map]
  split
  · rfl
  · rw [List.map_singleton, fieldRequoted, Yaml.requote_of_keyComesBack name, requoted_texts]

theorem flat_flagField (key : String) (value : Bool) :
    ((flagField key value).all fun field => field.2.isFlat) = true := by
  cases value <;> rfl

/-- A flag is always readable. -/
theorem readable_flagField (name : keyComesBack key = true) (value : Bool) :
    (flagField key value).all fieldReadable = true := by
  cases value with
  | false => rfl
  | true => simp [flagField, fieldReadable, name, isReadable]

/-- A flag stays as it is. -/
theorem requoted_flagField (name : keyComesBack key = true) (value : Bool) :
    (flagField key value).map fieldRequoted = flagField key value := by
  cases value with
  | false => rfl
  | true => simp [flagField, fieldRequoted, Yaml.requote_of_keyComesBack name, requoted]

end Data

namespace Yaml

open Json (Style layout itemsLayout entriesLayout nameChars textChars)
open Scan (areBlanks_line isShortKey ofSource_layout)

/-! ### Character by character, text by text -/

theorem all_isPrintable_of_blanks {chars : List Char} (blank : AreBlanks chars) :
    chars.all isPrintable = true := by
  rw [List.all_eq_true]
  intro c held
  rcases blank c held with rfl | rfl <;> rfl

@[simp] theorem all_isPrintable_line (level : Nat) :
    (Style.pretty.line level).all isPrintable = true :=
  all_isPrintable_of_blanks (areBlanks_line level)

@[simp] theorem all_isPrintable_colon : Style.pretty.colon.all isPrintable = true := by decide

/-- A text is readable if its quotes hold printable characters and can be taken back. -/
theorem isReadable_iff (text : String) :
    isReadable text = true
      ↔ (textChars text).all isPrintable = true ∧ (requote? text).isSome = true := by
  rw [isReadable, Bool.and_eq_true]

/-- Texts in a list are readable if the list is printable and every text can be taken back. -/
theorem itemsReadable_iff {items : List Data} (texts : items.all Data.isText = true)
    (depth : Nat) :
    Data.itemsReadable items = true
      ↔ (itemsLayout .pretty items depth).all isPrintable = true
        ∧ Data.itemsQuotable items = true := by
  induction items with
  | nil => simp [Data.itemsReadable, itemsLayout, Data.itemsQuotable]
  | cons item rest ih =>
    rw [List.all_cons, Bool.and_eq_true] at texts
    cases item with
    | text value =>
      have comma : isPrintable ',' = true := by decide
      rw [Data.itemsReadable, Data.isReadable, itemsLayout, layout, Data.itemsQuotable,
        Data.isQuotable, Bool.and_eq_true, isReadable_iff, ih texts.2]
      simp only [List.all_cons, List.all_append, all_isPrintable_line, comma, Bool.and_eq_true,
        Bool.true_and]
      tauto
    | _ => simp [Data.isText] at texts

mutual

/-- **Data can be read** exactly if its layout has only characters of YAML, its texts can
be read between quotes, and its keys are short. -/
theorem isReadable_data_iff : ∀ (data : Data) (depth : Nat), data.isFlat = true →
    (data.isReadable = true
      ↔ (layout .pretty data depth).all isPrintable = true
        ∧ data.isQuotable = true ∧ data.hasShortKeys = true)
  | .text value, _, _ => by
    have noKeys : (Data.text value).hasShortKeys = true := rfl
    rw [Data.isReadable, layout, Data.isQuotable, noKeys, isReadable_iff]
    tauto
  | .flag true, _, _ => by rw [layout]; decide
  | .flag false, _, _ => by rw [layout]; decide
  | .list [], _, _ => by rw [layout]; decide
  | .list (item :: rest), depth, flat => by
    have opening : isPrintable '[' = true := by decide
    have closing : isPrintable ']' = true := by decide
    have items := itemsReadable_iff flat (depth + 1)
    rw [itemsLayout] at items
    have noKeys : (Data.list (item :: rest)).hasShortKeys = true := rfl
    have comma : isPrintable ',' = true := by decide
    rw [Data.isReadable, items, layout, Data.isQuotable, noKeys]
    simp only [List.all_cons, List.all_append, List.all_nil, all_isPrintable_line, opening,
      closing, comma, Bool.and_eq_true, Bool.true_and, Bool.and_true, and_true]
  | .map _ [], _, _ => iff_of_true rfl ⟨by rw [layout]; decide, rfl, rfl⟩
  | .map _ ((key, value) :: rest), depth, flat => by
    have opening : isPrintable '\x7b' = true := by decide
    have closing : isPrintable '\x7d' = true := by decide
    have comma : isPrintable ',' = true := by decide
    have entries := entriesReadable_iff ((key, value) :: rest) (depth + 1) flat
    rw [entriesLayout] at entries
    rw [Data.isReadable, entries, layout, Data.isQuotable, Data.hasShortKeys]
    simp only [List.all_cons, List.all_append, List.all_nil, all_isPrintable_line, opening,
      closing, comma, Bool.and_eq_true, Bool.true_and, Bool.and_true]
  | .null, _, flat => by simp [Data.isFlat] at flat

/-- Entries are readable if their text is printable, every text in them can be taken back, and
their keys are short. -/
theorem entriesReadable_iff : ∀ (entries : List (Data × Data)) (depth : Nat),
    Data.entriesFlat entries = true →
      (Data.entriesReadable entries = true
        ↔ (entriesLayout .pretty entries depth).all isPrintable = true
          ∧ Data.entriesQuotable entries = true ∧ Data.entriesHaveShortKeys entries = true)
  | [], _, _ => by simp [Data.entriesReadable, entriesLayout, Data.entriesQuotable,
      Data.entriesHaveShortKeys]
  | (key, value) :: rest, depth, flat => by
    rw [Data.entriesFlat, Bool.and_eq_true, Bool.and_eq_true] at flat
    obtain ⟨⟨isText, value_flat⟩, rest_flat⟩ := flat
    cases key with
    | text name =>
      have comma : isPrintable ',' = true := by decide
      rw [Data.entriesReadable, entriesLayout, nameChars, Data.entriesQuotable, Data.isQuotable,
        Data.entriesHaveShortKeys]
      simp only [List.all_cons, List.all_append, all_isPrintable_line, all_isPrintable_colon,
        comma, Bool.and_eq_true, Bool.true_and, Bool.and_true, keyComesBack_iff, isReadable_iff,
        isReadable_data_iff value depth value_flat, entriesReadable_iff rest depth rest_flat]
      tauto
    | _ => simp [Data.isText] at isText

end

/-! ### Whole texts -/

variable {announced : Nat} {key value : Data} {rest : List (Data × Data)}

/-- Text whose characters are all printable is looked at to its end. -/
theorem ofText_eq {text : String} (printable : text.toList.all isPrintable = true) :
    Document.ofText text = Progress.firstDocument (Token.ofSource ⟨text.toList, false⟩) := by
  rw [Document.ofText, Source.ofText, if_pos printable]

/-- A JSON text that is whole has all the tokens of its data. -/
theorem ofText_of_isWhole (flat : (Data.map announced ((key, value) :: rest)).isFlat = true)
    {text : String}
    (written : text.toList = layout .pretty (.map announced ((key, value) :: rest)) 0 ++ ['\n'])
    (whole : isWhole text = true) :
    (Data.map announced ((key, value) :: rest)).isQuotable = true
      ∧ Document.ofText text = Progress.firstDocument
        ((Data.map announced ((key, value) :: rest)).flowTokens ++ [.streamEnd]) := by
  obtain ⟨printable, ends⟩ := readable_of_isWhole whole
  obtain ⟨tokens, endless⟩ := ofSource_layout flat written
  have quotable : (Data.map announced ((key, value) :: rest)).isQuotable = true := by
    rw [← Bool.not_eq_false]
    exact fun lost => endless lost ends
  refine ⟨quotable, ?_⟩
  rw [ofText_eq printable, tokens quotable]

/-- **What JSON is read as YAML**: the one whose texts and keys can all be read. -/
theorem isWhole_layout (flat : (Data.map announced ((key, value) :: rest)).isFlat = true)
    {text : String}
    (written : text.toList = layout .pretty (.map announced ((key, value) :: rest)) 0 ++ ['\n']) :
    isWhole text = (Data.map announced ((key, value) :: rest)).isReadable := by
  have printable : text.toList.all isPrintable
      = (layout .pretty (.map announced ((key, value) :: rest)) 0).all isPrintable := by
    have lineFeed : ['\n'].all isPrintable = true := by decide
    rw [written, List.all_append, lineFeed, Bool.and_true]
  rw [Bool.eq_iff_iff, isReadable_data_iff _ 0 flat, ← printable]
  constructor
  · intro whole
    obtain ⟨quotable, composed⟩ := ofText_of_isWhole flat written whole
    refine ⟨(readable_of_isWhole whole).1, quotable, ?_⟩
    -- a key that is too long would be a fault
    rw [← Bool.not_eq_false]
    intro long
    have fault := (Progress.firstDocument_flowTokens flat composed).2 long
    rw [isWhole, Document.isWhole, ← Option.not_isSome, fault] at whole
    cases whole
  · rintro ⟨printable, quotable, short⟩
    have composed := ofText_eq printable
    rw [(ofSource_layout flat written).1 quotable] at composed
    obtain ⟨-, sound, alone⟩ := (Progress.firstDocument_flowTokens flat composed).1 short
    rw [isWhole, Document.isWhole, sound, alone]
    rfl

/-- **A whole text shows the data** with every text as it comes back. -/
theorem data?_layout (flat : (Data.map announced ((key, value) :: rest)).isFlat = true)
    {text : String}
    (written : text.toList = layout .pretty (.map announced ((key, value) :: rest)) 0 ++ ['\n'])
    (whole : isWhole text = true) :
    data? text = some (Data.map announced ((key, value) :: rest)).requoted := by
  have readable := (isWhole_layout flat written).symm.trans whole
  obtain ⟨-, -, short⟩ := (isReadable_data_iff _ 0 flat).1 readable
  obtain ⟨-, composed⟩ := ofText_of_isWhole flat written whole
  have root := ((Progress.firstDocument_flowTokens flat composed).1 short).1
  rw [← Data.data?_flowTree _ flat, ← root]
  exact if_pos whole

end Yaml

end BreakCheck

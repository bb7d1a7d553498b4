/-
BreakCheck/Proofs/ConfigFile/Congruence.lean

A file means what its version and its section say, in whatever order.

What a file comes to is judged by the trees that stand under `version` and `breaking`, and by
nothing else (`judge`).  Nor does the order count in which the keys of the section stand:
neither for the least unknown key, nor for whether a key is repeated, nor for the values of the
fields.  So two files may differ in all other keys and values, in the order of their keys and
in that of the keys of the section, and in how their texts are quoted.

Within the section order does count: `ignore_only` is a value like any other, and the order of
its pairs is part of it.

Main result: `read_congr`.
-/
import BreakCheck.Proofs.ConfigFile.Verdict
import BreakCheck.Proofs.Yaml.Unstyled
import Mathlib

namespace BreakCheck

namespace ConfigFile

open Yaml (Tree)
open Yaml.Reader (Table)

variable {α : Type}

/-! ### Sections in another order -/

/-- **Two sections have the same entries**: styles aside they are the same, or they are mappings
of the same entries in another order. -/
def SameEntries (found found' : Option Tree) : Prop :=
  found.map Tree.unstyled = found'.map Tree.unstyled
    ∨ ∃ tag entries tag' entries', found = some (.mapping tag entries)
      ∧ found' = some (.mapping tag' entries')
      ∧ (Tree.entriesUnstyled entries).Perm (Tree.entriesUnstyled entries')

/-- A value that does not hang on styles does not do so in a field, either. -/
theorem held?_unstyled {given : Tree → Option α}
    (same : ∀ tree : Tree, given tree.unstyled = given tree) (blank : α) (found : Option Tree) :
    Tree.held? given blank (found.map Tree.unstyled) = Tree.held? given blank found := by
  cases found with
  | none => rfl
  | some tree => exact same tree

/-- The version is judged without regard to styles. -/
theorem judgeVersion_congr {found found' : Option Tree}
    (same : found.map Tree.unstyled = found'.map Tree.unstyled) :
    judgeVersion found = judgeVersion found' := by
  have given := held?_unstyled (Tree.optional?_unstyled Tree.text?_unstyled) none
  rw [judgeVersion, judgeVersion, ← given found, ← given found', same]

/-- No field of a section hangs on styles. -/
theorem isUnstyled_draftTable : Table.IsUnstyled draftTable := by
  simp only [Table.IsUnstyled, draftTable, List.forall_mem_cons]
  refine ⟨?_, ?_, ?_, ?_, ?_, List.forall_mem_nil _⟩
  · exact fun tree => congrArg _ (Tree.texts?_unstyled tree)
  · exact fun tree => congrArg _ (Tree.texts?_unstyled tree)
  · exact fun tree => congrArg _ (Tree.texts?_unstyled tree)
  · exact fun tree => congrArg _ (Tree.optional?_unstyled (Tree.node?_unstyled fieldDepth) tree)
  · exact fun tree => congrArg _ (Tree.flag?_unstyled tree)

/-- The keys of a section do not hang on styles. -/
theorem keysOf?_unstyled (found : Option Tree) :
    keysOf? (found.map Tree.unstyled) = keysOf? found := by
  rw [keysOf?, keysOf?, held?_unstyled (Tree.optional?_unstyled Tree.keys?_unstyled)]

/-- The fields of a section do not hang on styles. -/
theorem draftOf?_unstyled (found : Option Tree) :
    draftOf? (found.map Tree.unstyled) = draftOf? found := by
  have record := Table.record?_unstyled isUnstyled_draftTable {}
  rw [draftOf?, draftOf?, held?_unstyled (Tree.optional?_unstyled record)]

/-- The keys of a mapping are the names of its entries. -/
theorem keysOf?_mapping (tag : Option Yaml.Tag) (entries : List (Tree × Tree)) :
    keysOf? (some (.mapping tag entries))
      = (Tree.named? entries).map fun written => written.map Prod.fst := by
  show (((Tree.named? entries).map _).map some).map _ = _
  rw [Option.map_map, Option.map_map]
  rfl

/-- The fields of a mapping are what its entries make of a blank section. -/
theorem draftOf?_mapping (tag : Option Yaml.Tag) (entries : List (Tree × Tree)) :
    draftOf? (some (.mapping tag entries))
      = (Tree.named? entries).bind fun written => draftTable.fill? written [] {} := by
  show (((Tree.named? entries).bind _).map some).map _ = _
  rw [Option.map_map]
  exact Option.map_id'

/-- **Sections with the same entries come to the same.** -/
theorem judgeSection_congr (version : Version) {found found' : Option Tree}
    (same : SameEntries found found') :
    judgeSection version found = judgeSection version found' := by
  rcases same with same | ⟨tag, entries, tag', entries', rfl, rfl, perm⟩
  · rw [judgeSection, judgeSection, ← keysOf?_unstyled found, ← draftOf?_unstyled found, same,
      keysOf?_unstyled, draftOf?_unstyled]
  · rw [judgeSection, judgeSection, ← keysOf?_unstyled, ← draftOf?_unstyled,
      ← keysOf?_unstyled (some (.mapping tag' entries')),
      ← draftOf?_unstyled (some (.mapping tag' entries'))]
    simp only [Option.map_some, Tree.unstyled, keysOf?_mapping, draftOf?_mapping]
    obtain ⟨none, none'⟩ | ⟨written, written', named, named', perm⟩ := Table.named?_perm perm
    · rw [none, none']
    · rw [named, named']
      show (judgeKeys version (written.map Prod.fst) >>= fun _ =>
            told (draftTable.fill? written [] {}) >>= judgeDraft version)
          = judgeKeys version (written'.map Prod.fst) >>= fun _ =>
            told (draftTable.fill? written' [] {}) >>= judgeDraft version
      rw [judgeKeys_perm version (perm.map Prod.fst), Table.fill?_perm apart_draftTable perm]

/-! ### Files -/

/-- What is told of two results alike holds of both, or of neither. -/
theorem Meets.congr {result result' : Except FileError α} {verdict : Except (Option FileError) α}
    (meets : Meets result verdict) (meets' : Meets result' verdict) :
    ((∃ value, result = .ok value ∧ result' = .ok value)
        ∨ ∃ error error', result = .error error ∧ result' = .error error')
      ∧ ∀ error, (∀ cause, error ≠ .yaml cause) →
        (result = .error error ↔ result' = .error error) := by
  cases verdict with
  | ok value =>
    have done : result = .ok value := meets
    have done' : result' = .ok value := meets'
    exact ⟨.inl ⟨value, done, done'⟩, fun error _ => by rw [done, done']⟩
  | error told =>
    cases told with
    | some error =>
      have failed : result = .error error := meets
      have failed' : result' = .error error := meets'
      exact ⟨.inr ⟨error, error, failed, failed'⟩, fun other _ => by rw [failed, failed']⟩
    | none =>
      obtain ⟨cause, rfl⟩ := meets
      obtain ⟨cause', rfl⟩ := meets'
      refine ⟨.inr ⟨_, _, rfl, rfl⟩, fun error other => iff_of_false ?_ ?_⟩
      · rintro ⟨⟩
        exact other cause rfl
      · rintro ⟨⟩
        exact other cause' rfl

/-- **Only the version and the section of a file count, and not their order.**  Two files with
the same version and with sections of the same entries are read as the same configuration, or
neither of them is read; and if the error is not one of the text format, it is the same. -/
theorem read_congr {text text' : String} {fields fields' : List (String × Tree)}
    (declares : Declares text fields) (declares' : Declares text' fields')
    (version : (fields.lookup "version").map Tree.unstyled
      = (fields'.lookup "version").map Tree.unstyled)
    (entries : SameEntries (fields.lookup "breaking") (fields'.lookup "breaking")) :
    ((∃ config, (read text).outcome.value = .ok config ∧ (read text').outcome.value = .ok config)
        ∨ ∃ error error', (read text).outcome.value = .error error
          ∧ (read text').outcome.value = .error error')
      ∧ ∀ error, (∀ cause, error ≠ .yaml cause) →
        ((read text).outcome.value = .error error ↔ (read text').outcome.value = .error error) := by
  have same : judge fields = judge fields' := by
    rw [judge, judge, judgeVersion_congr version]
    simp only [judgeSection_congr _ entries]
  have meets := meets_read declares
  rw [same] at meets
  exact meets.congr (meets_read declares')

/-! ### Two files with the same meaning -/

/-- The fields of a file, and the file. -/
def orderedFields : List (String × Tree) :=
  [("version", .scalar .plain none "v1"),
   ("breaking", plainMapping
     [("use", .sequence none [.scalar .plain none "A"]),
      ("ignore", .sequence none [.scalar .plain none "B"])])]

def orderedText : String := "version: v1\nbreaking:\n  use: [A]\n  ignore: [B]\n"

/-- The fields with another one and everything in another order, and their file. -/
def reorderedFields : List (String × Tree) :=
  [("name", .scalar .plain none "x"),
   ("breaking", plainMapping
     [("ignore", .sequence none [.scalar .singleQuoted none "B"]),
      ("use", .sequence none [.scalar .plain none "A"])]),
   ("version", .scalar .singleQuoted none "v1")]

def reorderedText : String :=
  "name: x\nbreaking:\n  ignore: ['B']\n  use: [A]\nversion: 'v1'\n"

set_option maxRecDepth 10000 in
theorem declares_ordered : Declares orderedText orderedFields := by
  have document : Yaml.Document.ofText orderedText =
      { root := plainMapping orderedFields, anchors := [], size := 15, fault := none,
        continues := false } := by cbv
  exact .of_document document rfl (by decide) (by decide)

set_option maxRecDepth 10000 in
theorem declares_reordered : Declares reorderedText reorderedFields := by
  have document : Yaml.Document.ofText reorderedText =
      { root := plainMapping reorderedFields, anchors := [], size := 17, fault := none,
        continues := false } := by cbv
  exact .of_document document rfl (by decide) (by decide)

theorem sameEntries_reordered :
    SameEntries (orderedFields.lookup "breaking") (reorderedFields.lookup "breaking") := by
  refine .inr ⟨_, _, _, _, rfl, rfl, ?_⟩
  exact List.Perm.swap _ _ []

theorem read_congr_reordered :
    Declares orderedText orderedFields ∧ Declares reorderedText reorderedFields
      ∧ (orderedFields.lookup "version").map Tree.unstyled
        = (reorderedFields.lookup "version").map Tree.unstyled
      ∧ SameEntries (orderedFields.lookup "breaking") (reorderedFields.lookup "breaking")
      ∧ ∃ config, (read orderedText).outcome.value = .ok config
        ∧ (read reorderedText).outcome.value = .ok config := by
  have version : (orderedFields.lookup "version").map Tree.unstyled
      = (reorderedFields.lookup "version").map Tree.unstyled := rfl
  have judged : judge orderedFields
      = .ok (Draft.config { included := ["A"], ignored := ["B"] } .v1 []) := by cbv
  have done := meets_read declares_ordered
  rw [judged] at done
  refine ⟨declares_ordered, declares_reordered, version, sameEntries_reordered, ?_⟩
  obtain ⟨same | ⟨error, _, failed, -⟩, -⟩ :=
    read_congr declares_ordered declares_reordered version sameEntries_reordered
  · exact same
  · cases done.symm.trans failed

end ConfigFile

end BreakCheck

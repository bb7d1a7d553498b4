/-
BreakCheck/Proofs/ConfigFile/RoundTrip.lean

Configuration files come back from YAML.

Of the text format only one thing is used: that a text which was written for some
data shows this data again (`Yaml.ReadsBack`).  Everything else is the business of
configurations: that a file can be written if and only if its version is known, that
the keys which are written are those that are read, whichever fields are empty, that
repeated texts and the order of declaration survive, and that an ID without paths is
the only thing that does not (`read_write_text`).
-/
import BreakCheck.Proofs.ConfigFile.Shown
import BreakCheck.Proofs.Json.Layout
import Mathlib

namespace BreakCheck

namespace Yaml

/-! ### Data with texts for keys -/

mutual

/-- Maps whose keys are texts never share a beginning. -/
theorem beginsApart_of_bearsJson : ∀ {data : Data}, data.bearsJson = true → beginsApart data = true
  | .null, _ => rfl
  | .flag _, _ => rfl
  | .text _, _ => rfl
  | .list items, bears => by
    rw [Data.bearsJson] at bears
    rw [beginsApart, itemsBeginApart_of_bearsJson bears]
  | .map announced entries, bears => by
    rw [Data.bearsJson, Bool.and_eq_true] at bears
    have first : (entries.head?.any fun entry => isBegunByKey entry.1) = false := by
      have names := (Data.entriesBearJson_iff entries).1 bears.2
      cases entries with
      | nil => rfl
      | cons entry rest =>
        obtain ⟨key, value⟩ := entry
        have name := (names (key, value) List.mem_cons_self).1
        cases key <;> first | rfl | cases name
    rw [beginsApart, first, entriesBeginApart_of_bearsJson bears.2, Bool.and_false]
    rfl

theorem itemsBeginApart_of_bearsJson : ∀ {items : List Data},
    Data.itemsBearJson items = true → itemsBeginApart items = true
  | [], _ => rfl
  | item :: rest, bears => by
    rw [Data.itemsBearJson, Bool.and_eq_true] at bears
    rw [itemsBeginApart, beginsApart_of_bearsJson bears.1, itemsBeginApart_of_bearsJson bears.2]
    rfl

theorem entriesBeginApart_of_bearsJson : ∀ {entries : List (Data × Data)},
    Data.entriesBearJson entries = true → entriesBeginApart entries = true
  | [], _ => rfl
  | (key, value) :: rest, bears => by
    rw [Data.entriesBearJson, Bool.and_eq_true, Bool.and_eq_true] at bears
    obtain ⟨⟨name, value_bears⟩, rest_bear⟩ := bears
    have key_apart : beginsApart key = true := by cases key <;> first | rfl | cases name
    rw [entriesBeginApart, key_apart, beginsApart_of_bearsJson value_bears,
      entriesBeginApart_of_bearsJson rest_bear]
    rfl

end

end Yaml

namespace ConfigFile

/-! ### Writing -/

/-- A configuration is of a known version if its version is the name of one. -/
theorem knownVersion?_eq_some_iff {config : Config} {version : Version} :
    config.knownVersion? = some version ↔ version.name = config.version :=
  Version.ofName?_eq_some_iff

/-- A configuration of an unknown version is not written, and the error names the version. -/
theorem write_unknown {config : Config} (output : Output)
    (unknown : ∀ version : Version, version.name ≠ config.version) :
    write config output = .error (.unsupportedVersion config.version) := by
  rw [write, show config.knownVersion? = none from Version.ofName?_eq_none_iff.2 unknown]

/-- What can be written is of a known version. -/
theorem known_of_write {config : Config} {output : Output} {text : String}
    (written : write config output = .ok text) :
    ∃ version : Version, version.name = config.version := by
  by_contra unknown
  rw [write_unknown output fun version same => unknown ⟨version, same⟩] at written
  cases written

/-- A file is always laid out as YAML. -/
theorem yamlWrite_toData (version : Version) (config : Config) :
    Yaml.write (toData version config)
      = .ok (String.ofList (Yaml.documentLines (toData version config))) := by
  rw [Yaml.write, if_pos (Yaml.beginsApart_of_bearsJson (bearsJson_toData version config))]

/-- A configuration of a known version is written as the lines of its data. -/
theorem write_text {config : Config} {version : Version} (known : version.name = config.version) :
    write config .text = .ok (String.ofList (Yaml.documentLines (toData version config))) := by
  rw [write, knownVersion?_eq_some_iff.2 known]
  show (Yaml.write _).mapError _ = _
  rw [yamlWrite_toData]
  rfl

/-- A configuration of a known version is written as the lines of its file. -/
theorem write_of_lines {config : Config} {version : Version} {text : String}
    (known : version.name = config.version)
    (lines : Yaml.documentLines (toData version config) = text.toList) :
    write config .text = .ok text := by
  rw [write_text known, lines, String.ofList_toList]

/-- Exemptions without paths leave no trace in a file. -/
theorem toData_kept (version : Version) (config : Config) :
    toData version config.kept = toData version config := by
  rw [toData_eq_fileData, toData_eq_fileData, Config.toSection_kept, fileData, fileData,
    Section.toData_kept]

/-- **What is kept of a configuration is written as the configuration is.** -/
theorem write_kept (config : Config) (output : Output) :
    write config.kept output = write config output := by
  unfold write
  rw [Config.knownVersion?_kept]
  cases known : config.knownVersion? with
  | none => rfl
  | some version =>
    simp only [toData_kept]

/-! ### Reading what was written -/

/-- A text that shows the data of a configuration is read as what is kept of it. -/
theorem read_of_shown_toData {text : String} {config : Config} {version : Version}
    (known : version.name = config.version)
    (shown : Yaml.data? text = some (toData version config)) :
    (read text).outcome.value = .ok config.kept := by
  rw [read_of_shown (toData_eq_fileData version config ▸ shown), Config.ofSection_kept known]
  rfl

/-- For a configuration of a known version there is but one text to look at. -/
theorem readsBack_of_shown {config : Config} {version : Version} {text : String}
    (known : version.name = config.version) (written : write config .text = .ok text)
    (shown : Yaml.data? text = some (toData version config)) :
    Yaml.ReadsBack (toData version config) := by
  intro other done
  rw [write_text known, Except.ok.injEq] at written
  rw [yamlWrite_toData, Except.ok.injEq, written] at done
  rw [← done]
  exact shown

/-- **Configurations come back from YAML.**  A configuration can be written exactly if
its version is a known one, and otherwise its version is what is wrong with it.  If the
YAML that is written shows the data it was written for, it is read as the same
configuration without the IDs that have no paths, which in turn is written as the same
text. -/
theorem read_write_text (config : Config)
    (faithful : ∀ version : Version, version.name = config.version →
      Yaml.ReadsBack (toData version config)) :
    ((∃ text, write config .text = .ok text)
        ↔ ∃ version : Version, version.name = config.version)
      ∧ ((∀ version : Version, version.name ≠ config.version) →
          write config .text = .error (.unsupportedVersion config.version))
      ∧ ∀ text, write config .text = .ok text →
          (read text).outcome.value = .ok config.kept ∧ write config.kept .text = .ok text := by
  refine ⟨⟨fun ⟨_, written⟩ => known_of_write written, fun ⟨version, known⟩ => ?_⟩,
    write_unknown .text, ?_⟩
  · exact ⟨_, write_text known⟩
  · intro text written
    obtain ⟨version, known⟩ := known_of_write written
    refine ⟨?_, (write_kept config .text).trans written⟩
    rw [write_text known, Except.ok.injEq] at written
    refine read_of_shown_toData known (faithful version known text ?_)
    rw [yamlWrite_toData, written]

/-! ### A configuration to try this on -/

/-- A configuration with texts that could be taken for something else, and with an ID
that gets lost. -/
def trial : Config where
  included := ["no", ""]
  ignored := ["a: b"]
  exemptions := (Exemptions.ofList [⟨"EMPTY", []⟩, ⟨"ENUM", ["x y"]⟩]).value
  ignoreUnstable := true
  version := "v1"

/-- The file of the configuration. -/
def trialText : String :=
  "version: v1\nbreaking:\n  use:\n  - no\n  - ''\n  ignore:\n  - 'a: b'\n"
    ++ "  ignore_only:\n    ENUM:\n    - x y\n  ignore_unstable_packages: true\n"

set_option maxRecDepth 10000 in
theorem write_trial : write trial .text = .ok trialText := by
  have lines : Yaml.documentLines (toData .v1 trial) = trialText.toList := by decide +kernel
  exact write_of_lines rfl lines

set_option maxRecDepth 10000 in
theorem shown_trial : Yaml.data? trialText = some (toData .v1 trial) := by
  have document : Yaml.Document.ofText trialText =
      { root := .mapping none
          [(.scalar .plain none "version", .scalar .plain none "v1"),
           (.scalar .plain none "breaking", .mapping none
            [(.scalar .plain none "use", .sequence none
                [.scalar .plain none "no", .scalar .singleQuoted none ""]),
             (.scalar .plain none "ignore", .sequence none [.scalar .singleQuoted none "a: b"]),
             (.scalar .plain none "ignore_only", .mapping none
                [(.scalar .plain none "ENUM", .sequence none [.scalar .plain none "x y"])]),
             (.scalar .plain none "ignore_unstable_packages", .scalar .plain none "true")])]
        anchors := []
        size := 25
        fault := none
        continues := false } := by cbv
  have declared : trial.exemptions.toList = [⟨"EMPTY", []⟩, ⟨"ENUM", ["x y"]⟩] := by
    decide +kernel
  rw [Yaml.data?, document, toData_eq_fileData, Config.toSection_eq, declared]
  rfl

theorem readsBack_trial : Yaml.ReadsBack (toData .v1 trial) :=
  readsBack_of_shown rfl write_trial shown_trial

theorem read_write_trial :
    Yaml.ReadsBack (toData .v1 trial) ∧ write trial .text = .ok trialText
      ∧ (read trialText).outcome.value = .ok trial.kept
      ∧ write trial.kept .text = .ok trialText := by
  have faithful : ∀ version : Version, version.name = trial.version →
      Yaml.ReadsBack (toData version trial) := by
    intro version known
    cases version with
    | v1 => exact readsBack_trial
    | v1beta1 => exact absurd known (by decide)
  obtain ⟨-, -, back⟩ := read_write_text trial faithful
  exact ⟨readsBack_trial, write_trial, back trialText write_trial⟩

end ConfigFile

end BreakCheck

/-
BreakCheck/ConfigFile.lean

Configuration files: a version, and a `breaking` section.

A file is read in three passes.  The first one wants the version only, the second
the keys of the section, which are checked against the fields of the version,
and the third the section itself.  So an unknown version is reported before
anything else, and an unknown field before any value; other parts of the file
are never looked into.
-/
import BreakCheck.Data
import BreakCheck.Json.Writing
import BreakCheck.Yaml.Reading
import BreakCheck.Yaml.Writing

namespace BreakCheck

/-! ### Errors -/

/-- Why a configuration cannot be read from a file or written to one. -/
inductive FileError
  /-- The file is not a configuration of its version. -/
  | schema (error : SchemaError)
  /-- The version is not a known one. -/
  | unsupportedVersion (version : String)
  /-- The text cannot be read. -/
  | yaml (error : Yaml.Error)
  /-- The file cannot be written as YAML. -/
  | layout (error : Yaml.WriteError)
  /-- The file cannot be written as JSON. -/
  | encode (error : Json.WriteError)

namespace FileError

/-- Whether the error lies in what users wrote. -/
def blamesInput : FileError → Bool
  | schema _ => true
  | yaml _ => true
  | layout _ => true
  | unsupportedVersion _ => false
  | encode _ => false

/-- The text of an error; faults of the grammar and of the layout have none here. -/
def message? : FileError → Option String
  | schema error => some error.message
  | unsupportedVersion version =>
    some ("invalid \"version: " ++ version ++ "\" set, expected one of: v1beta1, v1")
  | yaml error => error.message?.map ("failed to parse config YAML: " ++ ·)
  | layout _ => none
  | encode error => some ("failed to encode config: " ++ error.message)

end FileError

/-! ### Reading -/

namespace ConfigFile

open Decoder (field texts flag node)

/-- The version a file declares. -/
def versionReader : Yaml.Reader (Option String) :=
  Decoder.record "VersionProbe" none
    [field "version" (Yaml.Reader.optional Decoder.text) fun version _ => version]

/-- The keys of the section. -/
def keysReader : Yaml.Reader (Option (List String)) :=
  Decoder.record "SectionKeys" none
    [field "breaking" (Yaml.Reader.optional Yaml.Reader.keys) fun keys _ => keys]

/-- A section whose `ignore_only` has not been looked into. -/
structure Draft where
  included : List String := []
  excluded : List String := []
  ignored : List String := []
  exemptions : Option Node := none
  ignoreUnstable : Bool := false

/-- The fields of a section. -/
def draftReader : Yaml.Reader Draft :=
  Decoder.record "BreakingSection" {}
    [field Field.included.key texts fun included draft => { draft with included },
     field Field.excluded.key texts fun excluded draft => { draft with excluded },
     field Field.ignored.key texts fun ignored draft => { draft with ignored },
     field Field.ignoredById.key (Yaml.Reader.optional node)
       fun exemptions draft => { draft with exemptions },
     field Field.ignoreUnstable.key flag fun ignoreUnstable draft => { draft with ignoreUnstable }]

/-- The section of a file. -/
def sectionReader : Yaml.Reader (Option Draft) :=
  Decoder.record "Sections" none
    [field "breaking" (Yaml.Reader.optional draftReader) fun draft _ => draft]

/-- Look into `ignore_only`. -/
def Draft.finish (draft : Draft) : Attempt SchemaError Section := do
  let exemptions ← match draft.exemptions with
    | some node => IgnoreOnly.decode node
    | none => pure []
  pure
    { included := draft.included
      excluded := draft.excluded
      ignored := draft.ignored
      exemptions
      ignoreUnstable := draft.ignoreUnstable }

/-- Read a file with some aim. -/
def readFile {α : Type} (reader : Yaml.Reader α) (text : String) : Attempt FileError α :=
  (Yaml.read reader text).mapError .yaml

/-- The version of a file; it has to be a known one. -/
def declaredVersion (text : String) : Attempt FileError Version := do
  let name := (← readFile versionReader text).getD ""
  match Version.ofName? name with
  | some version => pure version
  | none => throw (.unsupportedVersion name)

/-- Refuse keys that are not fields of a version; of several the least is named. -/
def refuseUnknown (version : Version) (keys : List String) : Attempt FileError Unit :=
  let unknown := keys.filter fun key => !(Field.ofKey? key).any version.knows
  match (sortTexts unknown).head? with
  | some key => throw (.schema (.unknownField key version))
  | none => pure ()

/-- The configuration of a file. -/
def read (text : String) : Attempt FileError Config := do
  let version ← declaredVersion text
  let keys ← readFile keysReader text
  refuseUnknown version (keys.getD [])
  let draft ← readFile sectionReader text
  let written ← (draft.getD {}).finish.mapError .schema
  monadLift (Logged.note (.parsedDocument version))
  monadLift (Config.ofSection version written)

/-! ### Writing -/

/-- The text formats a file can be written in. -/
inductive Output
  /-- YAML, as users write it. -/
  | text
  /-- JSON with an indentation of two spaces. -/
  | json
  deriving DecidableEq

namespace Output

/-- The name of a format. -/
def name : Output → String
  | text => "text"
  | json => "json"

/-- The format with a name. -/
def ofName? (name : String) : Option Output := [text, json].find? fun output => output.name == name

/-- The format that is taken where none is asked for. -/
def standard : Output := text

end Output

/-- A file as data. -/
def toData (version : Version) (config : Config) : Data :=
  .record [("version", version.toData), ("breaking", (config.toSection version).toData)]

/-- The file of a configuration, in its own version. -/
def write (config : Config) (output : Output) : Except FileError String :=
  match config.knownVersion? with
  | none => .error (.unsupportedVersion config.version)
  | some version =>
    match output with
    | .text => (Yaml.write (toData version config)).mapError .layout
    | .json =>
      ((Json.write .pretty (toData version config)).mapError .encode).map (· ++ "\n")

end ConfigFile

end BreakCheck

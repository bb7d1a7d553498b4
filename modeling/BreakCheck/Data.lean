/-
BreakCheck/Data.lean

What is written to a document, before a text format is chosen.

Each kind of value says once how it is laid out as data (`Section.toData`,
`Message.toData`, …); the writers of the two text formats both start from data.
Empty fields are left out.

A map announces how many entries it is about to have.  All maps tell the truth,
except one made from a node whose last key has no value: it is announced without
that entry, which is then written with the value null.  Whether no entry or one is
announced changes what some maps become in a text (`Json.write`,
`Yaml.beginsApart`).
-/
import BreakCheck.Section
import BreakCheck.Message
import BreakCheck.IgnoreOnly

namespace BreakCheck

/-- A tree of values to be written. -/
inductive Data
  | null
  | flag (value : Bool)
  | text (value : String)
  | list (items : List Data)
  | map (announced : Nat) (entries : List (Data × Data))

namespace Data

/-- A list of texts. -/
def texts (values : List String) : Data := list (values.map text)

/-- A map with text keys that announces just the entries it has. -/
def record (fields : List (String × Data)) : Data :=
  map fields.length (fields.map fun (key, value) => (text key, value))

/-! ### Fields that are left out when empty -/

/-- A field with a list of texts. -/
def textsField (key : String) (values : List String) : List (String × Data) :=
  if values.isEmpty then [] else [(key, texts values)]

/-- A field with a text. -/
def textField (key : String) (value : String) : List (String × Data) :=
  if value.isEmpty then [] else [(key, text value)]

/-- A field with a list of records. -/
def listField (key : String) (items : List Data) : List (String × Data) :=
  if items.isEmpty then [] else [(key, list items)]

/-- A field that is written when it is set. -/
def flagField (key : String) (value : Bool) : List (String × Data) :=
  if value then [(key, flag true)] else []

end Data

/-! ### Nodes -/

namespace Node

mutual

/-- A node as data. -/
def toData : Node → Data
  | null => .null
  | scalar text => .text text
  | sequence items => .list (itemData items)
  | mapping _ content => .map (content.length / 2) (entryData content)

/-- The items of a sequence as data. -/
def itemData : List Node → List Data
  | [] => []
  | item :: rest => item.toData :: itemData rest

/-- The entries of a mapping as data; a key without a value gets null. -/
def entryData : List Node → List (Data × Data)
  | [] => []
  | [key] => [(key.toData, .null)]
  | key :: value :: rest => (key.toData, value.toData) :: entryData rest

end

end Node

/-- The pairs of `ignore_only` as data. -/
def IgnoreOnly.toData (declared : List Exemption) : Data :=
  match IgnoreOnly.encode? declared with
  | some node => node.toData
  | none => .null

/-! ### Records -/

/-- An ID with its paths as data. -/
def Exemption.toData (entry : Exemption) : Data :=
  .record (Data.textField "id" entry.id ++ Data.textsField "paths" entry.paths)

/-- A section as data. -/
def Section.toData (written : Section) : Data :=
  .record <|
    Data.textsField Field.included.key written.included
      ++ Data.textsField Field.excluded.key written.excluded
      ++ Data.textsField Field.ignored.key written.ignored
      ++ (if IgnoreOnly.isVacuous written.exemptions then []
          else [(Field.ignoredById.key, IgnoreOnly.toData written.exemptions)])
      ++ Data.flagField Field.ignoreUnstable.key written.ignoreUnstable

/-- A message as data. -/
def Message.toData (message : Message) : Data :=
  .record <|
    Data.textsField "useIds" message.included
      ++ Data.textsField "exceptIds" message.excluded
      ++ Data.textsField "ignorePaths" message.ignored
      ++ Data.listField "ignoreIdPaths" (message.exemptions.map Exemption.toData)
      ++ Data.flagField "ignoreUnstablePackages" message.ignoreUnstable
      ++ Data.textField "version" message.version

/-- A version as data. -/
def Version.toData (version : Version) : Data := .text version.name

end BreakCheck

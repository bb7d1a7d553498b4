/-
BreakCheck/Decoder.lean

How typed values are read from documents, whatever their text format.

A `Decoder R` provides, for readers `R α` of one text format, the few questions
that can be put to a document: a text, a flag, a list, a record, one of several
names, a node.  The values of this library say once which questions make them
up; each text format answers the questions in its own way.
-/
import BreakCheck.Section
import BreakCheck.Message
import BreakCheck.IgnoreOnly

namespace BreakCheck

/-- The questions that a reader of some text format can put to a document. -/
class Decoder (R : Type → Type) extends Functor R where
  /-- A text. -/
  text : R String
  /-- A boolean. -/
  flag : R Bool
  /-- A list, its items read one by one. -/
  list {α : Type} (item : R α) : R (List α)
  /-- A record of the given name.  Starting from `blank`, every field that is
  present updates the value; a field may occur once, and unknown keys are skipped. -/
  record {σ : Type} (name : String) (blank : σ) (fields : List (String × R (σ → σ))) : R σ
  /-- One of several values, chosen by name. -/
  choice {α : Type} (choices : List (String × α)) : R α
  /-- A node. -/
  node : R Node
  /-- A value that also has to pass a check. -/
  refine {α β : Type} (check : α → Attempt SchemaError β) (read : R α) : R β

namespace Decoder

variable {R : Type → Type} [Decoder R] {σ α : Type}

/-- A list of texts. -/
def texts : R (List String) := list text

/-- A field of a record, read by `read` and put in place by `set`. -/
def field (key : String) (read : R α) (set : α → σ → σ) : String × R (σ → σ) :=
  (key, set <$> read)

end Decoder

open Decoder

variable {R : Type → Type} [Decoder R]

/-- An ID with its paths, as a record of the given name. -/
def Exemption.decoder (name : String) : R Exemption :=
  record name {}
    [field "id" text fun id entry => { entry with id },
     field "paths" texts fun paths entry => { entry with paths }]

/-- The pairs of an `ignore_only` mapping. -/
def IgnoreOnly.decoder : R (List Exemption) := refine IgnoreOnly.decode node

/-- A section read on its own, with its pairs checked in passing. -/
def Section.decoder : R Section :=
  record "ExternalConfig" {}
    [field Field.included.key texts fun included written => { written with included },
     field Field.excluded.key texts fun excluded written => { written with excluded },
     field Field.ignored.key texts fun ignored written => { written with ignored },
     field Field.ignoredById.key IgnoreOnly.decoder
       fun exemptions written => { written with exemptions },
     field Field.ignoreUnstable.key flag
       fun ignoreUnstable written => { written with ignoreUnstable }]

/-- A message. -/
def Message.decoder : R Message :=
  record "WireConfig" {}
    [field "useIds" texts fun included message => { message with included },
     field "exceptIds" texts fun excluded message => { message with excluded },
     field "ignorePaths" texts fun ignored message => { message with ignored },
     field "ignoreIdPaths" (list (Exemption.decoder "WireIdPaths"))
       fun exemptions message => { message with exemptions },
     field "ignoreUnstablePackages" flag
       fun ignoreUnstable message => { message with ignoreUnstable },
     field "version" text fun version message => { message with version }]

/-- A known version. -/
def Version.decoder : R Version :=
  choice (Version.all.map fun version => (version.name, version))

end BreakCheck

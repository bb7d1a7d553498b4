/-
BreakCheck/Section.lean

The `breaking` section of a configuration file, and how it becomes a
configuration and back.

A section lists its exemptions as raw pairs, so an ID may occur twice and may
have no paths.  `Config.ofSection` folds repeated IDs together, with a notice
for each; `Config.toSection` never needs one.  Both go by the field table of a
version: a field that the version does not know is left empty.
-/
import BreakCheck.Config

namespace BreakCheck

/-- The `breaking` section as users write it. -/
structure Section where
  included : List String := []
  excluded : List String := []
  ignored : List String := []
  /-- The pairs of `ignore_only`, in the order of their declaration. -/
  exemptions : List Exemption := []
  ignoreUnstable : Bool := false
  deriving DecidableEq

namespace Config

/-! ### From a section -/

/-- Take over one field of a section. -/
def adopt (written : Section) (config : Config) : Field → Logged Config
  | .included => pure { config with included := written.included }
  | .excluded => pure { config with excluded := written.excluded }
  | .ignored => pure { config with ignored := written.ignored }
  | .ignoredById => do
    let exemptions ← Exemptions.ofList written.exemptions
    pure { config with exemptions }
  | .ignoreUnstable => pure { config with ignoreUnstable := written.ignoreUnstable }

/-- The configuration that a section of a given version means. -/
def ofSection (version : Version) (written : Section) : Logged Config :=
  version.knownFields.foldlM (adopt written) (ofVersion version)

/-! ### To a section -/

/-- Write one field into a section. -/
def contribute (config : Config) (written : Section) : Field → Section
  | .included => { written with included := config.included }
  | .excluded => { written with excluded := config.excluded }
  | .ignored => { written with ignored := config.ignored }
  | .ignoredById => { written with exemptions := config.exemptions.toList }
  | .ignoreUnstable => { written with ignoreUnstable := config.ignoreUnstable }

/-- The section of a given version that says what a configuration means. -/
def toSection (version : Version) (config : Config) : Section :=
  version.knownFields.foldl (contribute config) {}

/-! ### Changing the version -/

/-- Move a configuration to another version, by way of a section of its own
version (or of the target, when its version is not a known one). -/
def moveTo (config : Config) (target : Version) : Logged Config := do
  let source := config.knownVersion?.getD target
  source.knownFields.forM fun field =>
    if target.knows field then pure ()
    else Logged.note (.droppedField field source target)
  ofSection target (config.toSection source)

end Config

end BreakCheck

/-
BreakCheck/Config.lean

The configuration of a breaking-change check.

A `Config` is the form that every other representation is made from and turned
into.  Its lists keep the order in which they were written; `Config.canonicalData`
is the view that forgets it.
-/
import BreakCheck.Exemptions

namespace BreakCheck

/-- What a breaking-change check enforces, and where. -/
structure Config where
  /-- Rule and category IDs the check includes. -/
  included : List String := []
  /-- Rule and category IDs the check leaves out. -/
  excluded : List String := []
  /-- Directories and files no rule looks at, relative to the module root. -/
  ignored : List String := []
  /-- Paths on which single rules or categories are not enforced. -/
  exemptions : Exemptions := .empty
  /-- Leave out packages whose name ends in an unstable version. -/
  ignoreUnstable : Bool := false
  /-- The version the IDs are written against; any text, known or not. -/
  version : String := ""
  deriving DecidableEq

namespace Config

/-- An empty configuration of a known version. -/
def ofVersion (version : Version) : Config := { version := version.name }

/-- The schema version of a configuration, if its version is a known one. -/
def knownVersion? (config : Config) : Option Version := Version.ofName? config.version

end Config

end BreakCheck

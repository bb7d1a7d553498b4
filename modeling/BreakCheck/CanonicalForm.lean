/-
BreakCheck/CanonicalForm.lean

The form of a configuration that depends on its content only.

The lists are sorted, the exemptions are sorted by ID with sorted paths, and the
result is written as compact JSON without empty fields.  Configurations with the
same canonical bytes differ at most in the order in which things were declared.
-/
import BreakCheck.Data
import BreakCheck.Json.Writing

namespace BreakCheck

namespace Config

/-- A configuration as data, everything in order. -/
def canonicalData (config : Config) : Data :=
  .record <|
    Data.textsField "use" (sortTexts config.included)
      ++ Data.textsField "except" (sortTexts config.excluded)
      ++ Data.textsField "ignore_root_paths" (sortTexts config.ignored)
      ++ Data.listField "ignore_id_to_root_paths"
        (config.exemptions.sorted.map Exemption.toData)
      ++ Data.flagField "ignore_unstable_packages" config.ignoreUnstable
      ++ Data.textField "version" config.version

end Config

/-- The canonical bytes of a configuration; none for no configuration. -/
def canonicalForm : Option Config → Except Json.WriteError ByteArray
  | none => .ok .empty
  | some config => (Json.write .compact config.canonicalData).map String.toUTF8

/-- Whether two configurations have the same canonical bytes. -/
def haveSameForm (a b : Config) : Except Json.WriteError Bool := do
  let bytes ← canonicalForm (some a)
  let bytes' ← canonicalForm (some b)
  return bytes == bytes'

end BreakCheck

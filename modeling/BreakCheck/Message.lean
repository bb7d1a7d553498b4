/-
BreakCheck/Message.lean

The message by which a configuration travels between services.

A message holds the same fields as a configuration, with the exemptions as raw
pairs: absent collections read as empty and IDs may repeat.  Going from a
configuration to its message and back changes nothing.
-/
import BreakCheck.Config

namespace BreakCheck

/-- A configuration as a message. -/
structure Message where
  included : List String := []
  excluded : List String := []
  ignored : List String := []
  exemptions : List Exemption := []
  ignoreUnstable : Bool := false
  version : String := ""
  deriving DecidableEq

namespace Config

/-- The configuration a message means; repeated IDs are folded together. -/
def ofMessage (message : Message) : Logged Config := do
  let exemptions ← Exemptions.ofList message.exemptions
  pure
    { included := message.included
      excluded := message.excluded
      ignored := message.ignored
      exemptions
      ignoreUnstable := message.ignoreUnstable
      version := message.version }

/-- The message that carries a configuration. -/
def toMessage (config : Config) : Message :=
  { included := config.included
    excluded := config.excluded
    ignored := config.ignored
    exemptions := config.exemptions.toList
    ignoreUnstable := config.ignoreUnstable
    version := config.version }

end Config

end BreakCheck

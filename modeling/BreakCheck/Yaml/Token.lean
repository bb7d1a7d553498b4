/-
BreakCheck/Yaml/Token.lean

The tokens of a YAML text.

Besides what is written, there are tokens for the beginning and the end of block
collections, which the text shows by indentation only, and for keys that are
recognised by the colon behind them.
-/
import BreakCheck.Yaml.Tag

namespace BreakCheck.Yaml

/-- How a scalar is written. -/
inductive ScalarStyle
  | plain
  | singleQuoted
  | doubleQuoted
  | literal
  | folded
  deriving DecidableEq

/-- A token of a YAML text. -/
inductive Token
  | streamEnd
  | versionDirective (major minor : Nat)
  | tagDirective (handle : String) (start : Tag)
  | documentStart
  | documentEnd
  | blockSequenceStart
  | blockMappingStart
  | blockEnd
  | flowSequenceStart
  | flowSequenceEnd
  | flowMappingStart
  | flowMappingEnd
  | blockEntry
  | flowEntry
  | key
  | value
  | anchor (name : String)
  | reference (name : String)
  /-- A tag in two parts; the handle is empty if the tag is written in full. -/
  | tag (handle : String) (suffix : Tag)
  | scalar (style : ScalarStyle) (text : String)
  deriving DecidableEq

end BreakCheck.Yaml

/-
BreakCheck/Yaml/Tag.lean

Tags of YAML nodes.

A tag says of what kind a node is: one of the common kinds (`Tag.common`), or one
that the document brings along and that begins with an exclamation mark.

Tags are compared byte by byte.  They are meant to be texts, but escapes may spell
bytes that are not the UTF-8 of any text, and a byte of zero ends a tag.  So a tag
is a row of bytes, and only the name of a tag of the document has to be a text.
-/

namespace BreakCheck.Yaml

/-- A tag, or a part of one. -/
structure Tag where
  bytes : List UInt8
  deriving DecidableEq

namespace Tag

/-- The tag with a text. -/
def ofText (text : String) : Tag := ⟨text.toList.flatMap String.utf8EncodeChar⟩

/-- The tag that begins a row of bytes and ends before the first zero. -/
def ofBytes (bytes : List UInt8) : Tag := ⟨bytes.takeWhile (· != 0)⟩

instance : Append Tag where
  append tag suffix := ⟨tag.bytes ++ suffix.bytes⟩

/-- Whether a tag has no bytes. -/
def isEmpty (tag : Tag) : Bool := tag.bytes.isEmpty

/-! ### Kinds of tags -/

/-- What the common tags begin with. -/
def commonStart : Tag := ofText "tag:yaml.org,2002:"

/-- The common tag with a name. -/
def common (name : String) : Tag := commonStart ++ ofText name

/-- A lone exclamation mark. -/
def mark : Tag := ofText "!"

/-- Whether a tag belongs to the document. -/
def isLocal (tag : Tag) : Bool := mark.bytes.isPrefixOf tag.bytes

/-- The name of a tag that belongs to the document, if it is a text.  A lone mark is
its own name. -/
def localName? (tag : Tag) : Option String :=
  if tag = mark then some "!"
  else if tag.isLocal then String.fromUTF8? tag.bytes.tail.toByteArray
  else none

end Tag

end BreakCheck.Yaml

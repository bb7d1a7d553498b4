/-
BreakCheck/Yaml/Cursor.lean

The characters of a YAML text, and a place in it.

A `Cursor` is what is left of a text together with the position reached: how many
bytes of UTF-8, which line, and how many characters of that line.  Only the step
over a line break changes the line, and a carriage return with its line feed is
one step.

Characters outside the printable set of YAML 1.1 make the text unreadable.  A
text is taken in portions of 16384 bytes, so what stands before a bad portion
can still be read (`Source.ofText`), but nobody can look beyond it (`Cursor.sees`).
-/

namespace BreakCheck.Yaml

/-! ### Character classes -/

/-- A space or a tab. -/
def isBlank (c : Char) : Bool := c == ' ' || c == '\t'

/-- A character that ends a line. -/
def isBreak (c : Char) : Bool :=
  c == '\n' || c == '\r' || c == '\u0085' || c == '\u2028' || c == '\u2029'

/-- A letter, a digit, or one of `_` and `-`. -/
def isWord (c : Char) : Bool :=
  c.isAlphanum || c == '_' || c == '-'

/-- A character that may occur in a YAML text. -/
def isPrintable (c : Char) : Bool :=
  let n := c.toNat
  n == 0x09 || n == 0x0a || n == 0x0d || (0x20 ≤ n && n ≤ 0x7e) || n == 0x85
    || (0xa0 ≤ n && n ≤ 0xd7ff) || (0xe000 ≤ n && n ≤ 0xfffd) || 0x10000 ≤ n

/-- The mark that may stand at the start of a line without being part of it. -/
def byteOrderMark : Char := '\ufeff'

/-- The number of bytes that characters take. -/
def byteCount : List Char → Nat
  | [] => 0
  | c :: rest => c.utf8Size + byteCount rest

/-! ### Portions -/

/-- A text as far as it is readable. -/
structure Source where
  chars : List Char
  /-- Whether unreadable characters follow. -/
  spoiled : Bool

namespace Source

/-- The number of bytes read at a time. -/
def portionSize : Nat := 16384

/-- The characters at the front that fit into a number of bytes, and the others. -/
def splitPortion (budget : Nat) : List Char → List Char × List Char
  | [] => ([], [])
  | c :: rest =>
    if c.utf8Size ≤ budget then
      let (portion, others) := splitPortion (budget - c.utf8Size) rest
      (c :: portion, others)
    else ([], c :: rest)

/-- The portions before the first one with an unreadable character. -/
def readable : Nat → List Char → List Char
  | 0, _ => []
  | fuel + 1, chars =>
    let (portion, others) := splitPortion portionSize chars
    if portion.all isPrintable then portion ++ readable fuel others else []

/-- The readable part of a text. -/
def ofText (text : String) : Source :=
  let chars := text.toList
  if chars.all isPrintable then ⟨chars, false⟩ else ⟨readable chars.length chars, true⟩

end Source

/-! ### Places in a text -/

/-- What is left of a text, and the position reached. -/
structure Cursor where
  rest : List Char
  /-- How many bytes lie before. -/
  offset : Nat := 0
  line : Nat := 0
  column : Nat := 0
  /-- Whether unreadable characters follow what is left. -/
  spoiled : Bool := false

namespace Cursor

/-- Whether one can look at the next `count` characters.  At the end of a text one
sees that there are none, but not at the beginning of its unreadable part. -/
def sees (c : Cursor) (count : Nat) : Bool :=
  !c.spoiled || (c.rest.take count).length == count

/-- The next character. -/
def next? (c : Cursor) : Option Char := c.rest.head?

/-- The character after the next one. -/
def second? (c : Cursor) : Option Char := c.rest[1]?

/-- Whether a character that may be missing is a blank, a break or missing. -/
def endsWord : Option Char → Bool
  | none => true
  | some c => isBlank c || isBreak c

/-- Whether a character that may be missing is a break or missing. -/
def endsLine : Option Char → Bool
  | none => true
  | some c => isBreak c

/-- Whether the next character is the given one. -/
def isAt (c : Cursor) (char : Char) : Bool := c.next? == some char

/-- Step over `count` characters of the line. -/
def skip (c : Cursor) (count : Nat) : Cursor :=
  { c with
    rest := c.rest.drop count
    offset := c.offset + byteCount (c.rest.take count)
    column := c.column + count }

/-- Step over a line break, if there is one. -/
def skipBreak (c : Cursor) : Cursor :=
  match c.rest with
  | '\r' :: '\n' :: rest =>
    { c with rest, offset := c.offset + 2, line := c.line + 1, column := 0 }
  | char :: rest =>
    if isBreak char then
      { c with rest, offset := c.offset + char.utf8Size, line := c.line + 1, column := 0 }
    else c
  | [] => c

/-- The line break in front as it counts in a text: separators of lines and of
paragraphs are kept, every other break is a line feed. -/
def breakChars (c : Cursor) : List Char :=
  match c.next? with
  | some '\u2028' => ['\u2028']
  | some '\u2029' => ['\u2029']
  | some char => if isBreak char then ['\n'] else []
  | none => []

/-- Step over the characters that satisfy a test. -/
def skipWhile (test : Char → Bool) (c : Cursor) : Cursor :=
  c.skip (c.rest.takeWhile test).length

/-- Step over the rest of the line, up to its break. -/
def skipLine (c : Cursor) : Cursor := c.skipWhile fun char => !isBreak char

/-- Whether a line that begins here is the given three characters and nothing
more, up to a blank. -/
def atIndicator (c : Cursor) (mark : Char) : Bool :=
  c.column == 0 && c.rest.take 3 == [mark, mark, mark] && endsWord c.rest[3]?

/-- Whether a line that marks a border between documents begins here. -/
def atDocumentMark (c : Cursor) : Bool := c.atIndicator '-' || c.atIndicator '.'

end Cursor

end BreakCheck.Yaml

/-
BreakCheck/Yaml/Form.lean

How a text is written as a scalar.

A text with line feeds is written as literal lines, a text that would mean
something else without quotes is written in single quotes, and any other text is
written plain.  If the text does not bear that form, the next one that it bears
is taken, of plain, single quotes and double quotes; a text that cannot be
literal goes into double quotes at once.
-/
import BreakCheck.Yaml.Cursor
import BreakCheck.Yaml.Scalar

namespace BreakCheck.Yaml.Form

/-! ### Which form a text bears -/

/-- Whether a character can be written without an escape. -/
def isRaw (c : Char) : Bool :=
  let n := c.toNat
  n == 0x0a || (0x20 ≤ n && n ≤ 0x7e) || (0xa0 ≤ n && n ≤ 0xd7ff)
    || (0xe000 ≤ n && n ≤ 0xfffd && n != 0xfeff) || 0x10000 ≤ n

/-- Whether two characters that satisfy tests stand next to each other. -/
def adjacent (first second : Char → Bool) : List Char → Bool
  | c :: d :: rest => (first c && second d) || adjacent first second (d :: rest)
  | _ => false

/-- A space. -/
def isSpace (c : Char) : Bool := c == ' '

/-- Whether a text can be written without double quotes at all. -/
def isWritable (text : List Char) : Bool :=
  text.all isRaw && !adjacent isSpace isBreak text

/-- Whether a text can be written as literal lines. -/
def bearsLiteral (text : List Char) : Bool := isWritable text && text.getLast? != some ' '

/-- Whether a text can be written in single quotes. -/
def bearsSingle (text : List Char) : Bool := isWritable text && !adjacent isBreak isSpace text

/-- Whether the first character of a plain text would be taken for an indicator. -/
def startsWithIndicator (text : List Char) : Bool :=
  match text with
  | [] => false
  | c :: rest =>
    "#,[]\x7b\x7d&*!|>'\"%@`".toList.contains c
      || ((c == '?' || c == ':' || c == '-') && Cursor.endsWord rest.head?)
      || text.take 3 == ['-', '-', '-'] || text.take 3 == ['.', '.', '.']

/-- Whether a plain text would end early: at a colon that ends a word, or at a number
sign that begins one. -/
def endsEarly (text : List Char) : Bool :=
  text.getLast? == some ':' || adjacent (· == ':') isBlank text || adjacent isBlank (· == '#') text

/-- Whether a text can be written plain. -/
def bearsPlain (text : List Char) : Bool :=
  isWritable text && !text.any isBreak
    && text.head? != some ' ' && text.getLast? != some ' '
    && !startsWithIndicator text && !endsEarly text

/-- Whether a text would mean something else if it were written plain. -/
def isAmbiguous (text : String) : Bool :=
  isZeroPadded text.toList ||
    match plainMeaning text with
    | .text _ => false
    | _ => true

/-- The style in which a text is written. -/
def style (text : String) : ScalarStyle :=
  let chars := text.toList
  if chars.contains '\n' then if bearsLiteral chars then .literal else .doubleQuoted
  else if !isAmbiguous text && bearsPlain chars then .plain
  else if bearsSingle chars then .singleQuoted
  else .doubleQuoted

/-! ### Writing -/

/-- Spaces up to a column. -/
def pad (column : Nat) : List Char := List.replicate column ' '

/-- Lines of text at a column; `fresh` tells whether a line is to begin.  Each
character is written by `write`. -/
def lines (column : Nat) (write : Char → List Char) : Bool → List Char → List Char
  | _, [] => []
  | fresh, c :: rest =>
    if isBreak c then c :: lines column write true rest
    else (if fresh then pad column else []) ++ write c ++ lines column write false rest

/-- A character between single quotes. -/
def singleChar (c : Char) : List Char := if c = '\'' then ['\'', '\''] else [c]

/-- The digits of a number in upper-case hexadecimal, with a fixed count of them. -/
def hexDigits (count n : Nat) : List Char :=
  let digits := (Nat.toDigits 16 n).map Char.toUpper
  List.replicate (count - digits.length) '0' ++ digits

/-- A character between double quotes. -/
def doubleChar (c : Char) : List Char :=
  match c with
  | '\x00' => ['\\', '0']
  | '\x07' => ['\\', 'a']
  | '\x08' => ['\\', 'b']
  | '\t' => ['\\', 't']
  | '\n' => ['\\', 'n']
  | '\x0b' => ['\\', 'v']
  | '\x0c' => ['\\', 'f']
  | '\r' => ['\\', 'r']
  | '\x1b' => ['\\', 'e']
  | '"' => ['\\', '"']
  | '\\' => ['\\', '\\']
  | '\u0085' => ['\\', 'N']
  | '\u2028' => ['\\', 'L']
  | '\u2029' => ['\\', 'P']
  | c =>
    if isRaw c then [c]
    else if c.toNat ≤ 0xff then '\\' :: 'x' :: hexDigits 2 c.toNat
    else if c.toNat ≤ 0xffff then '\\' :: 'u' :: hexDigits 4 c.toNat
    else '\\' :: 'U' :: hexDigits 8 c.toNat

/-- The header of literal lines: the indentation, where it does not show, and what
happens to the breaks at the end. -/
def literalHeader (text : List Char) : List Char :=
  let indentation := if text.head?.any (fun c => isSpace c || isBreak c) then ['2'] else []
  let chomping :=
    match text.reverse with
    | [] => ['-']
    | last :: before =>
      if !isBreak last then ['-']
      else if before.head?.all isBreak then ['+']
      else []
  '|' :: (indentation ++ chomping ++ ['\n'])

/-- A text as a scalar whose further lines, if any, begin at a column. -/
def scalarChars (column : Nat) (text : String) : List Char :=
  let chars := text.toList
  match style text with
  | .plain => chars
  | .singleQuoted =>
    '\'' :: (lines column singleChar false chars
      ++ (if chars.getLast?.any isBreak then pad column else []) ++ ['\''])
  | .doubleQuoted => '"' :: (chars.flatMap doubleChar ++ ['"'])
  | _ => literalHeader chars ++ lines column (fun c => [c]) true chars

/-- A text as a scalar, with the end of its last line. -/
def scalarLines (column : Nat) (text : String) : List Char :=
  if style text = .literal ∧ text.toList.getLast?.any isBreak then scalarChars column text
  else scalarChars column text ++ ['\n']

end BreakCheck.Yaml.Form

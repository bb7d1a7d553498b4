/-
BreakCheck/Yaml/Token/Properties.lean

Directives, anchors, references and tags.

Each function looks at the text behind an indicator and returns the token with
the place behind it, or `none` where the text is not well formed.
-/
import BreakCheck.Numeral.Literal
import BreakCheck.Yaml.Cursor
import BreakCheck.Yaml.Token

namespace BreakCheck.Yaml

/-- The characters that satisfy a test, and the place behind them. -/
def takeText (test : Char → Bool) (c : Cursor) : String × Cursor :=
  (String.ofList (c.rest.takeWhile test), c.skipWhile test)

/-! ### Anchors and references -/

/-- Whether a name may end before a character. -/
def endsName : Option Char → Bool
  | some c => Cursor.endsWord (some c) || "?:,]\x7d%@`".toList.contains c
  | none => true

/-- The name behind `&` or `*`. -/
def name? (c : Cursor) : Option (String × Cursor) :=
  let (name, c) := takeText isWord c
  if name.isEmpty || !endsName c.next? then none else some (name, c)

/-! ### Tags -/

/-- Whether a character may occur in a tag as it is.  Where the tag is written in
full, brackets and commas may, too. -/
def isTagChar (full : Bool) (c : Char) : Bool :=
  isWord c || ";/?:@&=+$.!~*'()".toList.contains c
    || (full && (c == ',' || c == '[' || c == ']'))

/-- The byte that a percent sign and two hexadecimal digits stand for. -/
def escapedByte? : List Char → Option Nat
  | '%' :: a :: b :: _ => Literal.natural? 16 [a, b]
  | _ => none

/-- How many bytes follow the first one of a character. -/
def tailSize? (first : Nat) : Option Nat :=
  if first < 0x80 then some 0
  else if first / 32 = 6 then some 1
  else if first / 16 = 14 then some 2
  else if first / 8 = 30 then some 3
  else none

/-- Take the escaped bytes that follow the first one of a character, and put them in
front of `done`, the last one first. -/
def escapedTail? : Nat → List UInt8 → Cursor → Option (List UInt8 × Cursor)
  | 0, done, c => some (done, c)
  | count + 1, done, c => do
    let byte ← escapedByte? c.rest
    if byte / 64 = 2 then escapedTail? count (.ofNat byte :: done) (c.skip 3) else none

/-- Take the escaped bytes of a character.  They have the form of UTF-8, but what
they spell need not be a character. -/
def escapedChar? (done : List UInt8) (c : Cursor) : Option (List UInt8 × Cursor) := do
  let first ← escapedByte? c.rest
  escapedTail? (← tailSize? first) (.ofNat first :: done) (c.skip 3)

/-- The bytes of a tag, the last one first.  What is not escaped is ASCII. -/
def tagBytes (full : Bool) : Nat → List UInt8 → Cursor → Option (List UInt8 × Cursor)
  | 0, done, c => some (done, c)
  | fuel + 1, done, c =>
    match c.next? with
    | none => some (done, c)
    | some char =>
      if char == '%' then
        match escapedChar? done c with
        | some (done, c) => tagBytes full fuel done c
        | none => none
      else if isTagChar full char then tagBytes full fuel (char.toUInt8 :: done) (c.skip 1)
      else some (done, c)

/-- The part of a tag behind `start`, of which the mark in front is left out.
Something has to be written for a tag, though it may come to nothing. -/
def tagPart? (full : Bool) (start : List Char) (size : Nat) (c : Cursor) :
    Option (Tag × Cursor) := do
  let (done, c) ← tagBytes full size [] c
  if start.isEmpty && done.isEmpty then none
  else some (.ofBytes ((start.drop 1).map Char.toUInt8 ++ done.reverse), c)

/-- A handle: an exclamation mark, and perhaps a word and another mark. -/
def handle? (c : Cursor) : Option (List Char × Cursor) :=
  if c.isAt '!' then
    let (word, c) := takeText isWord (c.skip 1)
    if c.isAt '!' then some ('!' :: (word.toList ++ ['!']), c.skip 1)
    else some ('!' :: word.toList, c)
  else none

/-- A tag that begins here. -/
def tag? (inFlow : Bool) (size : Nat) (c : Cursor) : Option (Token × Cursor) := do
  let (handle, suffix, c) ←
    if c.second? == some '<' then do
      let (suffix, c) ← tagPart? true [] size (c.skip 2)
      if c.isAt '>' then some ("", suffix, c.skip 1) else none
    else do
      let (handle, c) ← handle? c
      if handle.length ≠ 1 ∧ handle.getLast? = some '!' then do
        let (suffix, c) ← tagPart? false [] size c
        some (String.ofList handle, suffix, c)
      else do
        let (suffix, c) ← tagPart? false handle size c
        if suffix.isEmpty then some ("", .mark, c) else some ("!", suffix, c)
  if Cursor.endsWord c.next? || (inFlow && c.isAt ',') then some (.tag handle suffix, c) else none

/-! ### Directives -/

/-- A part of a version number: at most nine digits. -/
def versionNumber? (c : Cursor) : Option (Nat × Cursor) :=
  let digits := c.rest.takeWhile Literal.isDigit
  if digits.isEmpty || 9 < digits.length then none
  else some (Literal.valueOf 10 digits, c.skip digits.length)

/-- What a directive of some name says. -/
def directiveValue? (name : String) (size : Nat) (c : Cursor) : Option (Token × Cursor) :=
  if name = "YAML" then do
    let (major, c) ← versionNumber? (c.skipWhile isBlank)
    let (minor, c) ← if c.isAt '.' then versionNumber? (c.skip 1) else none
    some (.versionDirective major minor, c)
  else if name = "TAG" then do
    let (handle, c) ← handle? (c.skipWhile isBlank)
    if handle.length ≠ 1 ∧ handle.getLast? ≠ some '!' then none
    else if c.next?.any isBlank then do
      let (start, c) ← tagPart? true [] size (c.skipWhile isBlank)
      if Cursor.endsWord c.next? then some (.tagDirective (String.ofList handle) start, c)
      else none
    else none
  else none

/-- A directive that begins here, with the rest of its line. -/
def directive? (size : Nat) (c : Cursor) : Option (Token × Cursor) := do
  let (name, c) := takeText isWord (c.skip 1)
  if name.isEmpty || !Cursor.endsWord c.next? then none
  else do
    let (token, c) ← directiveValue? name size c
    let c := c.skipWhile isBlank
    let c := if c.isAt '#' then c.skipLine else c
    if Cursor.endsLine c.next? then some (token, c.skipBreak) else none

end BreakCheck.Yaml

/-
BreakCheck/Json/Tree.lean

JSON texts as trees, as far as they are well formed.

A reader goes through a document from front to back and stops at the first thing
it cannot accept, be it a value of the wrong type or a fault of the syntax.  So
a fault does not make the whole text unreadable: the tree holds everything
before it, and `broken` stands where the text stops making sense.  Whoever comes
to a `broken` leaf has met the fault; whoever stops earlier never sees it.

Some faults harm only those who look at a value closely: a text with half of a
surrogate pair (`flawed`), or a number too large for a double.  A reader that
skips such a value has nothing to object to.
-/
import BreakCheck.Numeral.Literal

namespace BreakCheck.Json

/-- A number of a JSON text. -/
inductive Number
  /-- An integer of 64 bits, with or without a sign. -/
  | integer (value : Int)
  | real (value : Binary)
  | outOfRange
  deriving DecidableEq

/-- A JSON text, up to its first fault. -/
inductive Tree
  | null
  | flag (value : Bool)
  | number (value : Number)
  | text (value : String)
  /-- A text with half of a surrogate pair in it. -/
  | flawed
  | array (items : List Tree)
  /-- Members with their names; a name that is not a text is a fault. -/
  | object (members : List (Tree × Tree))
  /-- The place of a fault. -/
  | broken

namespace Tree

/-- Whether a tree can stand as the name of a member. -/
def isName : Tree → Bool
  | text _ => true
  | flawed => true
  | _ => false

mutual

/-- Whether a value can be skipped: it has no fault of the syntax. -/
def isSound : Tree → Bool
  | null => true
  | flag _ => true
  | number _ => true
  | text _ => true
  | flawed => true
  | array items => allSound items
  | object members => allMembersSound members
  | broken => false

/-- Whether every item of an array can be skipped. -/
def allSound : List Tree → Bool
  | [] => true
  | item :: rest => item.isSound && allSound rest

/-- Whether every member of an object can be skipped. -/
def allMembersSound : List (Tree × Tree) → Bool
  | [] => true
  | (name, value) :: rest => name.isName && value.isSound && allMembersSound rest

end

end Tree

/-! ### Numbers -/

namespace Number

/-- Digits taken into a number of 64 bits for as long as they fit, and how many
did not. -/
def absorb (significand : Nat) : List Char → Nat × Nat
  | [] => (significand, 0)
  | digit :: rest =>
    let next := significand * 10 + Literal.digitValue digit
    if next < Nat.pow 2 64 then absorb next rest else (significand, rest.length + 1)

/-- Divide by `10 ^ places`, at most 308 places at a time. -/
def shiftDown : Nat → Binary → Nat → Binary
  | 0, x, _ => x
  | steps + 1, x, places =>
    if places ≤ 308 then x.scale .double .one (.powerOfTen places)
    else if x.isZero then x
    else shiftDown steps (x.scale .double .one (.powerOfTen 308)) (places - 308)

/-- The number `± significand · 10 ^ exponent`.  The significand is rounded to a
double before it is scaled, and the result is rounded again. -/
def ofParts (negative : Bool) (significand : Nat) (exponent : Int) : Number :=
  let x := Binary.ofDecimal .double false significand 0
  let places := exponent.natAbs
  let scaled :=
    if exponent < 0 then shiftDown (places / 308 + 1) x places
    else if places ≤ 308 then x.scale .double (.powerOfTen places) .one
    else if x.isZero then x
    else .infinite false
  if scaled.isFinite then .real (if negative then scaled.neg else scaled) else .outOfRange

/-- The number spelled by its digits before and after the point and its exponent.
Without a point, an exponent or too many digits it is an integer. -/
def ofDigits (negative : Bool) (whole : List Char) (fraction : Option (List Char))
    (exponent : Option Int) : Number :=
  let (significand, extra) := absorb 0 whole
  if fraction.isNone && exponent.isNone && extra == 0 then
    if !negative then .integer significand
    else if 0 < significand ∧ significand ≤ Nat.pow 2 63 then .integer (-significand)
    else ofParts negative significand 0
  else
    let digits := fraction.getD []
    let (significand, ignored) := absorb significand digits
    let places : Int := digits.length - ignored
    ofParts negative significand (extra - places + exponent.getD 0)

/-- The digits after a point, if there is one; a point needs a digit. -/
def fraction? : List Char → Option (Option (List Char) × List Char)
  | '.' :: rest =>
    let digits := rest.takeWhile Literal.isDigit
    if digits.isEmpty then none else some (some digits, rest.dropWhile Literal.isDigit)
  | rest => some (none, rest)

/-- The digits of an exponent; there has to be one. -/
def exponentDigits? (negative : Bool) (text : List Char) : Option (Option Int × List Char) :=
  let digits := text.takeWhile Literal.isDigit
  let value : Int := Literal.valueOf 10 digits
  if digits.isEmpty then none
  else some (some (if negative then -value else value), text.dropWhile Literal.isDigit)

/-- The exponent of a number, if there is one. -/
def exponent? : List Char → Option (Option Int × List Char)
  | mark :: rest =>
    if mark = 'e' ∨ mark = 'E' then
      match rest with
      | '-' :: rest => exponentDigits? true rest
      | '+' :: rest => exponentDigits? false rest
      | rest => exponentDigits? false rest
    else some (none, mark :: rest)
  | [] => some (none, [])

/-- The number at the front of a text, and the rest of the text. -/
def read? (text : List Char) : Option (Number × List Char) :=
  let (negative, text) :=
    match text with
    | '-' :: rest => (true, rest)
    | rest => (false, rest)
  let whole := text.takeWhile Literal.isDigit
  let leadingZero : Bool := whole.head? == some '0' && whole.length != 1
  if whole.isEmpty || leadingZero then none
  else do
    let (fraction, text) ← fraction? (text.dropWhile Literal.isDigit)
    let (exponent, text) ← exponent? text
    return (ofDigits negative whole fraction exponent, text)

end Number

/-! ### Texts -/

/-- The characters of a text in quotes, `none` if they include half of a surrogate
pair; and what follows the closing quote. -/
abbrev Body := Option (List Char) × List Char

/-- Put a character in front of a text. -/
def Body.cons (c : Char) (body : Body) : Body := (body.1.map (c :: ·), body.2)

/-- The character that a backslash and a letter stand for. -/
def shortEscape? : Char → Option Char
  | '"' => some '"'
  | '\\' => some '\\'
  | '/' => some '/'
  | 'b' => some '\x08'
  | 'f' => some '\x0c'
  | 'n' => some '\n'
  | 'r' => some '\r'
  | 't' => some '\t'
  | _ => none

/-- The code unit that four hexadecimal digits spell. -/
def codeUnit? (a b c d : Char) : Option Nat := Literal.natural? 16 [a, b, c, d]

/-- Whether a code unit is the first half of a surrogate pair. -/
def isLead (unit : Nat) : Bool := decide (0xd800 ≤ unit ∧ unit < 0xdc00)

/-- Whether a code unit is the second half of a surrogate pair. -/
def isTrail (unit : Nat) : Bool := decide (0xdc00 ≤ unit ∧ unit < 0xe000)

/-- The character that a surrogate pair stands for. -/
def ofPair (lead trail : Nat) : Char :=
  Char.ofNat (0x10000 + (lead - 0xd800) * 0x400 + (trail - 0xdc00))

/-- A text that turns out to hold half of a surrogate pair. -/
def Body.spoil (body : Body) : Body := (none, body.2)

/-- A text in front of which nothing, or the first half of a pair, has been left. -/
def Body.after (lead : Option Nat) (body : Body) : Body :=
  if lead.isSome then body.spoil else body

/-- The text behind an opening quote; `none` if it has no end or a bad escape.
`lead` is the first half of a surrogate pair that has just been read. -/
def body? (lead : Option Nat) : List Char → Option Body
  | [] => none
  | '"' :: rest => some (Body.after lead (some [], rest))
  | '\\' :: 'u' :: a :: b :: c :: d :: rest =>
    match codeUnit? a b c d with
    | none => none
    | some unit =>
      match lead with
      | some first =>
        if isTrail unit then (body? none rest).map (Body.cons (ofPair first unit))
        else (body? none rest).map Body.spoil
      | none =>
        if isLead unit then body? (some unit) rest
        else if isTrail unit then (body? none rest).map Body.spoil
        else (body? none rest).map (Body.cons (Char.ofNat unit))
  | '\\' :: e :: rest =>
    match shortEscape? e with
    | none => none
    | some c => (body? none rest).map fun body => (body.cons c).after lead
  | c :: rest =>
    if c.toNat < 0x20 then none else (body? none rest).map fun body => (body.cons c).after lead

/-! ### Values -/

/-- Drop the blanks in front. -/
def skipBlanks (text : List Char) : List Char :=
  text.dropWhile fun c => c == ' ' || c == '\t' || c == '\n' || c == '\r'

/-- The rest of a text that starts with a word. -/
def afterWord? : List Char → List Char → Option (List Char)
  | [], text => some text
  | c :: word, d :: text => if c = d then afterWord? word text else none
  | _ :: _, [] => none

/-- The text behind an opening quote, as a tree. -/
def textTree (text : List Char) : Tree × List Char :=
  match body? none text with
  | some (some chars, rest) => (.text (String.ofList chars), rest)
  | some (none, rest) => (.flawed, rest)
  | none => (.broken, [])

/-- A word that has to follow, and the value it stands for. -/
def wordTree (word : List Char) (value : Tree) (text : List Char) : Tree × List Char :=
  match afterWord? word text with
  | some rest => (value, rest)
  | none => (.broken, [])

/-- The number at the front of a text, as a tree. -/
def numberTree (text : List Char) : Tree × List Char :=
  match Number.read? text with
  | some (value, rest) => (.number value, rest)
  | none => (.broken, [])

mutual

/-- The value at the front of a text, and what follows it.  Every step but one in
two takes a character, so twice the length of the text is enough `fuel`. -/
def valueTree : Nat → List Char → Tree × List Char
  | 0, _ => (.broken, [])
  | fuel + 1, text =>
    match skipBlanks text with
    | '"' :: rest => textTree rest
    | '[' :: rest =>
      match skipBlanks rest with
      | ']' :: rest => (.array [], rest)
      | rest =>
        let (items, rest) := itemTrees fuel rest
        (.array items, rest)
    | '{' :: rest =>
      match skipBlanks rest with
      | '}' :: rest => (.object [], rest)
      | rest =>
        let (members, rest) := memberTrees fuel rest
        (.object members, rest)
    | 'n' :: rest => wordTree ['u', 'l', 'l'] .null rest
    | 't' :: rest => wordTree ['r', 'u', 'e'] (.flag true) rest
    | 'f' :: rest => wordTree ['a', 'l', 's', 'e'] (.flag false) rest
    | '-' :: rest => numberTree ('-' :: rest)
    | c :: rest => if Literal.isDigit c then numberTree (c :: rest) else (.broken, [])
    | [] => (.broken, [])

/-- The items of an array, of which there is at least one. -/
def itemTrees : Nat → List Char → List Tree × List Char
  | 0, _ => ([.broken], [])
  | fuel + 1, text =>
    let (item, rest) := valueTree fuel text
    match skipBlanks rest with
    | ',' :: rest =>
      let (items, rest) := itemTrees fuel rest
      (item :: items, rest)
    | ']' :: rest => ([item], rest)
    | _ => ([item, .broken], [])

/-- The members of an object, of which there is at least one. -/
def memberTrees : Nat → List Char → List (Tree × Tree) × List Char
  | 0, _ => ([(.broken, .broken)], [])
  | fuel + 1, text =>
    let (name, rest) := valueTree fuel text
    if name.isName then
      match skipBlanks rest with
      | ':' :: rest =>
        let (value, rest) := valueTree fuel rest
        match skipBlanks rest with
        | ',' :: rest =>
          let (members, rest) := memberTrees fuel rest
          ((name, value) :: members, rest)
        | '}' :: rest => ([(name, value)], rest)
        | _ => ([(name, value), (.broken, .broken)], [])
      | _ => ([(name, .broken)], [])
    else ([(name, .broken)], [])

end

/-- A whole JSON text as a tree, and whether nothing but blanks follows its value. -/
def Tree.ofText (text : String) : Tree × Bool :=
  let chars := text.toList
  let (tree, rest) := valueTree (2 * chars.length + 2) chars
  (tree, (skipBlanks rest).isEmpty)

end BreakCheck.Json

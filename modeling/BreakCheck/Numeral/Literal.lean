/-
BreakCheck/Numeral/Literal.lean

Numbers as they are spelled in text.

An unsigned decimal literal has digits, perhaps a point with digits after it,
and perhaps an exponent; at least one digit stands beside the point.  An integer
literal in some base is a nonempty row of digits of that base.
-/
import BreakCheck.Numeral.Binary

namespace BreakCheck.Literal

/-! ### Digits -/

/-- The value of a digit of bases up to 16. -/
def digitValue (c : Char) : Nat :=
  if '0' ≤ c ∧ c ≤ '9' then c.toNat - '0'.toNat
  else if 'a' ≤ c ∧ c ≤ 'f' then c.toNat - 'a'.toNat + 10
  else if 'A' ≤ c ∧ c ≤ 'F' then c.toNat - 'A'.toNat + 10
  else 16

/-- Whether a character is an ASCII decimal digit. -/
def isDigit (c : Char) : Bool := decide ('0' ≤ c ∧ c ≤ '9')

/-- The number that a row of digits spells in a base. -/
def valueOf (base : Nat) (digits : List Char) : Nat :=
  digits.foldl (fun value c => value * base + digitValue c) 0

/-- The natural number that a whole text spells in a base. -/
def natural? (base : Nat) (text : List Char) : Option Nat :=
  if !text.isEmpty && text.all (fun c => decide (digitValue c < base)) then
    some (valueOf base text)
  else none

/-! ### Decimal numbers -/

/-- The exponent after the mantissa of a literal; zero if there is none. -/
def exponent? : List Char → Option Int
  | [] => some 0
  | mark :: text =>
    if mark = 'e' ∨ mark = 'E' then
      match text with
      | '-' :: digits => (natural? 10 digits).map fun n => -(n : Int)
      | '+' :: digits => (natural? 10 digits).map fun n => (n : Int)
      | digits => (natural? 10 digits).map fun n => (n : Int)
    else none

/-- The digits and the power of ten of an unsigned decimal literal. -/
def decimal? (text : List Char) : Option (Nat × Int) :=
  let whole := text.takeWhile isDigit
  let rest := text.dropWhile isDigit
  let (fraction, rest) :=
    match rest with
    | '.' :: rest => (rest.takeWhile isDigit, rest.dropWhile isDigit)
    | rest => ([], rest)
  if whole.isEmpty && fraction.isEmpty then none
  else
    (exponent? rest).map fun exponent =>
      (valueOf 10 (whole ++ fraction), exponent - fraction.length)

/-- The sign in front of a number, and the number. -/
def splitSign : List Char → Bool × List Char
  | '-' :: text => (true, text)
  | '+' :: text => (false, text)
  | text => (false, text)

/-- The number that a text spells: a sign, then a decimal literal or one of the
names `inf`, `infinity`, `nan` in any case. -/
def binary? (p : Precision) (text : List Char) : Option Binary :=
  let (negative, body) := splitSign text
  let name := body.map Char.toLower
  if name = "inf".toList ∨ name = "infinity".toList then some (.infinite negative)
  else if name = "nan".toList then some .nan
  else (decimal? body).map fun (digits, exponent) => .ofDecimal p negative digits exponent

end BreakCheck.Literal

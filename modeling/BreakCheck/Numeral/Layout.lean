/-
BreakCheck/Numeral/Layout.lean

Decimal text of doubles.

The digits are always the shortest ones; a `Layout` says how they are set out.
Three layouts are in use: numbers that become the text of a node, and numbers in
the error texts of the two document formats.
-/
import BreakCheck.Numeral.Shortest

namespace BreakCheck

/-- How the shortest digits of a double are set out. -/
structure Layout where
  /-- Where a double halfway between two shortest candidates goes. -/
  tie : Tie
  /-- The decimal exponents written without `e`; all of them if there is no range. -/
  positional : Option (Int × Int)
  /-- Whether a whole number is written with `.0`. -/
  keepPoint : Bool

namespace Layout

/-- The text of a node: never an exponent, and whole numbers without a point. -/
def plain : Layout := ⟨.up, none, false⟩

/-- Never an exponent, but always a point. -/
def pointed : Layout := ⟨.up, none, true⟩

/-- Always a point, and an exponent outside `1e-5` to `1e15`. -/
def scientific : Layout := ⟨.even, some (-5, 15), true⟩

/-- Digits with the point after the first `point` of them. -/
def positionalText (keepPoint : Bool) (digits : List Char) (point : Int) : List Char :=
  if point ≤ 0 then
    '0' :: '.' :: (List.replicate (-point).toNat '0' ++ digits)
  else
    let whole := point.toNat
    let front := digits.take whole ++ List.replicate (whole - digits.length) '0'
    match digits.drop whole with
    | [] => if keepPoint then front ++ ['.', '0'] else front
    | fraction => front ++ '.' :: fraction

/-- Digits with the point after the first, and a signed exponent. -/
def exponentText (digits : List Char) (exponent : Int) : List Char :=
  let mantissa :=
    match digits with
    | first :: second :: rest => first :: '.' :: second :: rest
    | digits => digits
  let sign := if exponent < 0 then '-' else '+'
  mantissa ++ 'e' :: sign :: decimalDigits exponent.natAbs

/-- The text of a positive double or zero. -/
def magnitude (layout : Layout) (decimal : Decimal) : List Char :=
  let digits := decimalDigits decimal.digits
  let exponent := decimal.point - 1
  match layout.positional with
  | none => positionalText layout.keepPoint digits decimal.point
  | some (least, greatest) =>
    if least ≤ exponent ∧ exponent ≤ greatest then
      positionalText layout.keepPoint digits decimal.point
    else exponentText digits exponent

end Layout

/-- The decimal text of a double. -/
def Binary.text (layout : Layout) : Binary → String
  | nan => "NaN"
  | infinite negative => if negative then "-inf" else "inf"
  | finite negative mantissa exponent =>
    let text := layout.magnitude (shortest layout.tie mantissa exponent)
    String.ofList (if negative then '-' :: text else text)

end BreakCheck

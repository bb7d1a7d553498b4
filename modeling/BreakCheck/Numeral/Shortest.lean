/-
BreakCheck/Numeral/Shortest.lean

The fewest decimal digits that still name a double.

The reals that round to a double `m · 2 ^ e` form an interval, its ends included
exactly when `m` is even.  `Binary.shortest` looks at the decimal grids of 1, 2, …
17 digits in turn and takes, from the first grid with a point in the interval,
the point nearest to the double.  A point in the interval is always matched by one of
the double's two neighbours on the grid, so only those two are tried.

`Tie` says where a double goes that lies halfway between both neighbours.
-/
import BreakCheck.Numeral.Binary

namespace BreakCheck

/-- Where a number halfway between two candidates goes. -/
inductive Tie
  | up
  | even

/-- The decimal `0.d₁d₂… · 10 ^ point`, its digits written as a natural number. -/
structure Decimal where
  digits : Nat
  point : Int
  deriving DecidableEq

/-- The decimal digits of a natural number, most significant first. -/
def decimalDigits (n : Nat) : List Char := Nat.toDigits 10 n

/-- A positive double and its rounding interval, as ratios over one denominator. -/
structure Neighbourhood where
  low : Nat
  value : Nat
  high : Nat
  denominator : Nat
  /-- Whether the ends of the interval round to the double as well. -/
  closed : Bool

namespace Neighbourhood

/-- The neighbourhood of `m · 2 ^ e`.  Below a power of two the doubles lie twice
as close, so the lower half of its interval is half as long. -/
def ofParts (m : Nat) (e : Int) : Neighbourhood :=
  let narrow := m == Nat.pow 2 52 && decide (-1074 < e)
  let scale := twoPow (e - 2)
  { low := (4 * m - if narrow then 1 else 2) * scale
    value := 4 * m * scale
    high := (4 * m + 2) * scale
    denominator := twoPow (2 - e)
    closed := m % 2 == 0 }

/-- Whether `candidate · 10 ^ unit` rounds to the double. -/
def holds (n : Neighbourhood) (candidate : Nat) (unit : Int) : Bool :=
  let point := candidate * tenPow unit * n.denominator
  let low := n.low * tenPow (-unit)
  let high := n.high * tenPow (-unit)
  if n.closed then decide (low ≤ point ∧ point ≤ high)
  else decide (low < point ∧ point < high)

/-- The `point` with `10 ^ (point - 1) ≤ value < 10 ^ point`. -/
def point (n : Neighbourhood) : Int :=
  if n.denominator ≤ n.value then (decimalDigits (n.value / n.denominator)).length
  else
    let places := (decimalDigits (n.denominator / n.value)).length
    if n.denominator ≤ n.value * Nat.pow 10 (places - 1) then 2 - (places : Int)
    else 1 - (places : Int)

/-- The grid point that rounds to the double, if the grid `10 ^ unit` has one. -/
def nearest? (n : Neighbourhood) (tie : Tie) (unit : Int) : Option Nat :=
  let num := n.value * tenPow (-unit)
  let den := n.denominator * tenPow unit
  let down := num / den
  let twice := 2 * (num % den)
  let upper : Bool :=
    match tie with
    | .up => decide (den ≤ twice)
    | .even => decide (den < twice) || (twice == den && down % 2 == 1)
  match n.holds down unit, n.holds (down + 1) unit with
  | true, true => some (if upper then down + 1 else down)
  | true, false => some down
  | false, true => some (down + 1)
  | false, false => none

/-- Try the grids of `count`, `count + 1`, … digits, at most `grids` of them.  A
point of the first grid that has one ends in no zero, unless it is `10` itself. -/
def search (n : Neighbourhood) (tie : Tie) (point : Int) : Nat → Nat → Decimal
  | 0, count => ⟨n.value * tenPow (count - point) / (n.denominator * tenPow (point - count)), point⟩
  | grids + 1, count =>
    match n.nearest? tie (point - count) with
    | some digits =>
      if digits = Nat.pow 10 count then ⟨1, point + 1⟩ else ⟨digits, point⟩
    | none => search n tie point grids (count + 1)

end Neighbourhood

/-- The shortest decimal that rounds to the double `mantissa · 2 ^ exponent`, of
several the nearest. -/
def Binary.shortest (tie : Tie) (mantissa : Nat) (exponent : Int) : Decimal :=
  if mantissa = 0 then ⟨0, 1⟩
  else
    let n := Neighbourhood.ofParts mantissa exponent
    n.search tie n.point 17 1

end BreakCheck

/-
BreakCheck/Numeral/Binary.lean

Binary floating-point numbers with exact arithmetic on natural numbers.

A `Binary` is a sign, a mantissa and an exponent.  Every operation computes its
exact result as a ratio of natural numbers and rounds it once, to the nearest
number of a `Precision`, a tie to the even mantissa (`Binary.ofRatio`).  So the
numbers behave as IEEE 754 prescribes, and all of it can be evaluated by the
kernel.
-/

namespace BreakCheck

/-- A floating-point number; a finite one stands for `± mantissa · 2 ^ exponent`. -/
inductive Binary
  | nan
  | infinite (negative : Bool)
  | finite (negative : Bool) (mantissa : Nat) (exponent : Int)
  deriving DecidableEq

/-- Which mantissas and exponents the numbers of a floating-point format have. -/
structure Precision where
  /-- Length of the mantissa in bits. -/
  bits : Nat
  /-- The least exponent. -/
  lowest : Int
  /-- The greatest exponent. -/
  highest : Int

namespace Precision

/-- Numbers of 64 bits. -/
def double : Precision := ⟨53, -1074, 971⟩

/-- Numbers of 32 bits. -/
def single : Precision := ⟨24, -149, 104⟩

end Precision

/-- The integer nearest to `num / den`; a half goes to the even neighbour. -/
def roundHalfEven (num den : Nat) : Nat :=
  let quotient := num / den
  let twice := 2 * (num % den)
  if twice < den ∨ (twice = den ∧ quotient % 2 = 0) then quotient else quotient + 1

/-- The factor `2 ^ e`, for an `e` that is not negative. -/
def twoPow (e : Int) : Nat := Nat.pow 2 e.toNat

/-- The factor `10 ^ e`, for an `e` that is not negative. -/
def tenPow (e : Int) : Nat := Nat.pow 10 e.toNat

namespace Binary

/-- Zero, with a sign. -/
def zero (negative : Bool) : Binary := finite negative 0 0

/-- The number of a precision that is nearest to `± num / den`. -/
def ofRatio (p : Precision) (negative : Bool) (num den : Nat) : Binary :=
  if num = 0 then zero negative else
  let guess : Int := (num.log2 : Int) - (den.log2 : Int) - (p.bits - 1 : Int)
  let short : Bool :=
    num * twoPow (-guess) < Nat.pow 2 (p.bits - 1) * den * twoPow guess
  let exponent := max (if short then guess - 1 else guess) p.lowest
  let mantissa := roundHalfEven (num * twoPow (-exponent)) (den * twoPow exponent)
  let (mantissa, exponent) :=
    if mantissa = Nat.pow 2 p.bits then (Nat.pow 2 (p.bits - 1), exponent + 1) else (mantissa, exponent)
  if mantissa = 0 then zero negative
  else if p.highest < exponent then infinite negative
  else finite negative mantissa exponent

/-- The number of a precision that is nearest to `± digits · 10 ^ exponent`.
Exponents far outside the range of doubles are settled without the power. -/
def ofDecimal (p : Precision) (negative : Bool) (digits : Nat) (exponent : Int) : Binary :=
  if digits = 0 then zero negative
  else if 400 < exponent then infinite negative
  else if exponent < -(400 + digits.log2 : Int) then zero negative
  else ofRatio p negative (digits * tenPow exponent) (tenPow (-exponent))

/-- The same number with the other sign. -/
def neg : Binary → Binary
  | nan => nan
  | infinite negative => infinite (!negative)
  | finite negative mantissa exponent => finite (!negative) mantissa exponent

/-- Whether a number is neither infinite nor "not a number". -/
def isFinite : Binary → Bool
  | finite .. => true
  | _ => false

/-- Whether a number is a zero of either sign. -/
def isZero : Binary → Bool
  | finite _ mantissa _ => mantissa == 0
  | _ => false

/-- A finite number times `num / den`, rounded; other numbers stay as they are. -/
def scale (p : Precision) (x : Binary) (num den : Binary) : Binary :=
  match x, num, den with
  | finite negative m e, finite _ m₁ e₁, finite _ m₂ e₂ =>
    let shift := e + e₁ - e₂
    ofRatio p negative (m * m₁ * twoPow shift) (m₂ * twoPow (-shift))
  | _, _, _ => x

/-- The number of another precision that is nearest to a number. -/
def toPrecision (p : Precision) : Binary → Binary
  | finite negative mantissa exponent =>
    ofRatio p negative (mantissa * twoPow exponent) (twoPow (-exponent))
  | x => x

/-- The double nearest to `10 ^ n`. -/
def powerOfTen (n : Nat) : Binary := ofDecimal .double false 1 n

/-- The double `1`. -/
def one : Binary := powerOfTen 0

end Binary

end BreakCheck

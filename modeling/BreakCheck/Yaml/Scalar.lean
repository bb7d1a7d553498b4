/-
BreakCheck/Yaml/Scalar.lean

What scalars mean.

A plain scalar means null, a boolean or a number if it is spelled like one, and
otherwise its text; a scalar in any other style means its text.  A tag of the
common kind forces one of these meanings.  Integers are decimal without leading
zeros, or hexadecimal, octal or binary with a mark in front.
-/
import BreakCheck.Complaint
import BreakCheck.Numeral.Literal
import BreakCheck.Yaml.Token

namespace BreakCheck.Yaml

/-- The meaning of a scalar. -/
inductive Meaning
  | null
  | flag (value : Bool)
  | integer (value : Int)
  /-- An integer that needs more than 64 bits. -/
  | wideInteger (value : Int) (signed : Bool)
  | number (value : Binary)
  | text (value : String)

/-- What a meaning is called in complaints. -/
def Meaning.found : Meaning → Found
  | null => .unit
  | flag value => .flag value
  | integer value => .integer value
  | wideInteger value signed => .wideInteger value signed
  | number value => .number value
  | text value => .text value

/-! ### Words -/

/-- Whether a text spells null. -/
def isNull (text : String) : Bool := ["null", "Null", "NULL", "~"].contains text

/-- The boolean that a text spells. -/
def flagOf? (text : String) : Option Bool :=
  if ["true", "True", "TRUE"].contains text then some true
  else if ["false", "False", "FALSE"].contains text then some false
  else none

/-! ### Integers -/

/-- Whether a text is digits with a leading zero, perhaps behind a sign: such a
text is no number. -/
def isZeroPadded (text : List Char) : Bool :=
  match (Literal.splitSign text).2 with
  | '0' :: digit :: rest => (digit :: rest).all Literal.isDigit
  | _ => false

/-- The marks of the bases other than ten. -/
def bases : List (Char × Nat) := [('x', 16), ('o', 8), ('b', 2)]

/-- Whether a text starts with a sign. -/
def isSigned (text : List Char) : Bool :=
  match text with
  | c :: _ => c == '+' || c == '-'
  | [] => false

/-- The number of a text with the mark of a base. -/
def based? : List Char → Option Nat
  | '0' :: mark :: digits => (bases.lookup mark).bind fun base => Literal.natural? base digits
  | _ => none

/-- The number without a minus sign that a text spells. -/
def unsigned? (text : List Char) : Option Nat :=
  let body := match text with
    | '+' :: rest => rest
    | rest => rest
  match based? body with
  | some value => some value
  | none => if isSigned body || isZeroPadded text then none else Literal.natural? 10 body

/-- The number with a minus sign that a text spells, without the sign. -/
def negated? (text : List Char) : Option Nat :=
  match text with
  | '-' :: body =>
    match based? body with
    | some value => some value
    | none => if isZeroPadded text then none else Literal.natural? 10 body
  | _ => none

/-- The integer of up to 128 bits that a text spells. -/
def integer? (text : List Char) : Option Meaning :=
  match unsigned? text with
  | some value =>
    if value < Nat.pow 2 64 then some (.integer value)
    else if value < Nat.pow 2 128 then some (.wideInteger value false)
    else none
  | none =>
    match negated? text with
    | some value =>
      if value ≤ Nat.pow 2 63 then some (.integer (-value))
      else if value ≤ Nat.pow 2 127 then some (.wideInteger (-value) true)
      else none
    | none => none

/-! ### Other numbers -/

/-- The number that a text spells, with `.inf` and `.nan`; a decimal literal has to
stay within the range of doubles. -/
def number? (text : List Char) : Option Binary :=
  let body := match text with
    | '+' :: rest => rest
    | rest => rest
  if text.head? == some '+' && isSigned body then none
  else if [".inf", ".Inf", ".INF"].contains (String.ofList body) then some (.infinite false)
  else if ["-.inf", "-.Inf", "-.INF"].contains (String.ofList text) then some (.infinite true)
  else if [".nan", ".NaN", ".NAN"].contains (String.ofList text) then some .nan
  else (Literal.binary? .double body).filter Binary.isFinite

/-! ### Scalars -/

/-- The meaning of a plain scalar without a tag. -/
def plainMeaning (text : String) : Meaning :=
  let chars := text.toList
  if text.isEmpty || isNull text then .null
  else
    match flagOf? text with
    | some value => .flag value
    | none =>
      match integer? chars with
      | some meaning => meaning
      | none =>
        match if isZeroPadded chars then none else number? chars with
        | some value => .number value
        | none => .text text

/-- The meaning that a common tag forces on a text; other tags mean the text. -/
def taggedMeaning (tag : Tag) (text : String) : Except Complaint Meaning :=
  let forced (meaning : Option Meaning) (wanted : String) :=
    match meaning with
    | some meaning => .ok meaning
    | none => .error (.wrongValue text wanted)
  if tag = .common "bool" then forced ((flagOf? text).map .flag) "a boolean"
  else if tag = .common "int" then forced (integer? text.toList) "an integer"
  else if tag = .common "float" then forced ((number? text.toList).map .number) "a float"
  else if tag = .common "null" then forced (if isNull text then some .null else none) "null"
  else .ok (.text text)

/-- The meaning of a scalar.  Tags of the document leave it to the style. -/
def meaning (style : ScalarStyle) (tag : Option Tag) (text : String) :
    Except Complaint Meaning :=
  match tag.filter fun tag => !tag.isLocal with
  | some tag => taggedMeaning tag text
  | none => .ok (if style = .plain then plainMeaning text else .text text)

end BreakCheck.Yaml

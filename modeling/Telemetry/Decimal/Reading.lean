import Telemetry.Decimal.Digits

/-!
Contract: doubles from decimal text.

Owns:
- the nearest double of a decimal, and the text forms that are read that way;
- the scaled double of a decimal: the digits are rounded to a double first and
  then multiplied or divided by a power of ten, each step rounding on its own,
  so the result can be a neighbour of the nearest double.

Does not own: which digits a format keeps.
-/

namespace Telemetry.Decimal

/-- The decimal exponents beyond which every double is infinite or zero. -/
def exponentLimit : Int := 400

/-- The double nearest to `digits * 10 ^ exponent`. -/
def nearest (digits : Nat) (exponent : Int) : Float :=
  let length : Int := (Nat.toDigits 10 digits).length
  if digits = 0 || exponent + length < -exponentLimit then
    0.0
  else if exponentLimit < exponent + length then
    1.0 / 0.0
  else
    Float.ofScientific digits (decide (exponent < 0)) exponent.natAbs

/-- The double with its sign turned if `negative`. -/
def signed (negative : Bool) (value : Float) : Float :=
  if negative then -value else value

/-- An exponent part: `e`, an optional sign and digits, to the end of the text. -/
def readExponent? : List Char → Option Int
  | [] => some 0
  | mark :: rest =>
    if mark = 'e' || mark = 'E' then
      match rest with
      | '-' :: digits => (readDigits? digits).map fun value => -Int.ofNat value
      | '+' :: digits => (readDigits? digits).map Int.ofNat
      | digits => (readDigits? digits).map Int.ofNat
    else
      none

/-- A decimal with optional fraction and exponent; digits may be missing on one
side of the point. -/
def readDecimal? (characters : List Char) : Option Float :=
  let (whole, rest) := takeDigits characters
  let (fraction, rest) := match rest with
    | '.' :: after => takeDigits after
    | other => ([], other)
  if whole.isEmpty && fraction.isEmpty then
    none
  else
    (readExponent? rest).map fun exponent =>
      nearest (digitsValue (whole ++ fraction)) (exponent - fraction.length)

/-- The words for the values that are not finite, in any case of letters. -/
def readWord? (characters : List Char) : Option Float :=
  let lower := characters.map Char.toLower
  if lower = ['n', 'a', 'n'] then
    some (0.0 / 0.0)
  else if lower = ['i', 'n', 'f'] ||
      lower = ['i', 'n', 'f', 'i', 'n', 'i', 't', 'y'] then
    some (1.0 / 0.0)
  else
    none

/-- The nearest double of a text. -/
def readFloat? (text : String) : Option Float :=
  let read (characters : List Char) :=
    (readDecimal? characters).or (readWord? characters)
  match text.toList with
  | '-' :: rest => (read rest).map (signed true)
  | '+' :: rest => read rest
  | characters => read characters

/-- The greatest power of ten that a scaling step uses. -/
def greatestStep : Nat := 308

def powerOfTen (exponent : Nat) : Float := Float.ofScientific 1 false exponent

/-- The scaled double of `digits * 10 ^ exponent`; `none` if it is too large. A
significand divided by the greatest step twice is zero. -/
def scaled? (digits : UInt64) (exponent : Int) : Option Float :=
  let value := digits.toFloat
  let size := exponent.natAbs
  if 0 ≤ exponent then
    if size ≤ greatestStep then
      let product := value * powerOfTen size
      if product.isInf then none else some product
    else if digits = 0 then
      some 0.0
    else
      none
  else if size ≤ greatestStep then
    some (value / powerOfTen size)
  else if size ≤ 2 * greatestStep then
    some (value / powerOfTen greatestStep / powerOfTen (size - greatestStep))
  else
    some 0.0

end Telemetry.Decimal

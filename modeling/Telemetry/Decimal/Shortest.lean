/-!
Contract: the shortest decimal that reads back as a given double.

Owns:
- a double's magnitude as `significand * 2 ^ exponent`;
- the interval of reals that round to it;
- the decimal with the fewest digits in that interval, nearest to the value
  among those, with the rule for an exact tie as a parameter.

Does not own: signs, the values that are not finite, or where the point stands
in the written form.
-/

namespace Telemetry.Decimal

/-- The number `significand * 2 ^ exponent`. -/
structure Binary where
  significand : Nat
  exponent : Int
deriving DecidableEq, Repr

/-- The unit before the fraction's 52 bits. It is not written: all doubles have
it but zeros and the smallest ones. -/
def leadingUnit : Nat := 0x10000000000000

/-- The number of values of the exponent field. -/
def fieldRange : Nat := 0x800

/-- The sign bit of a double is set. -/
def isNegative (value : Float) : Bool :=
  value.toBits.toNat / leadingUnit / fieldRange == 1

/-- The magnitude of a finite double. -/
def Binary.ofFloat (value : Float) : Binary :=
  let bits : Nat := value.toBits.toNat
  let fraction : Nat := bits % leadingUnit
  let field : Nat := bits / leadingUnit % fieldRange
  if field = 0 then
    ⟨fraction, -1074⟩
  else
    ⟨fraction + leadingUnit, Int.ofNat field - 1075⟩

/-- The least significand of a double whose lower neighbour is half a step away. -/
def Binary.stepsDown (value : Binary) : Bool :=
  value.significand == leadingUnit && decide (-1074 < value.exponent)

/-- Four times the significand: the value in quarters of its last place. -/
def Binary.quarters (value : Binary) : Nat := 4 * value.significand

/-- The lower end of the interval that rounds to the value, in quarters. -/
def Binary.lowQuarters (value : Binary) : Nat :=
  if value.stepsDown then value.quarters - 1 else value.quarters - 2

/-- The upper end of the interval that rounds to the value, in quarters. -/
def Binary.highQuarters (value : Binary) : Nat := value.quarters + 2

/-- The ends of the interval round to the value, too. -/
def Binary.endsIncluded (value : Binary) : Bool :=
  value.significand % 2 == 0

/-- A comparison of multiples of `10 ^ decimal` with multiples of `2 ^ binary`:
`a * 10 ^ decimal` is to `c * 2 ^ binary` as `a * tens` is to `c * twos`. -/
structure Scale where
  tens : Nat
  twos : Nat
deriving DecidableEq, Repr

def Scale.between (decimal binary : Int) : Scale where
  tens := Nat.pow 10 decimal.toNat * Nat.pow 2 (-binary).toNat
  twos := Nat.pow 2 binary.toNat * Nat.pow 10 (-decimal).toNat

/-- The scale that compares a decimal grid with quarters of the value's last place. -/
def Binary.scale (value : Binary) (decimal : Int) : Scale :=
  Scale.between decimal (value.exponent - 2)

/-- The grid point `index * 10 ^ decimal` rounds to the value. -/
def Binary.admits (value : Binary) (decimal : Int) (index : Nat) : Bool :=
  let scale := value.scale decimal
  let point := index * scale.tens
  let low := value.lowQuarters * scale.twos
  let high := value.highQuarters * scale.twos
  if value.endsIncluded then
    decide (low ≤ point) && decide (point ≤ high)
  else
    decide (low < point) && decide (point < high)

/-- Which of two equally near decimals is taken. -/
inductive Tie where
  | toEven
  | up
deriving DecidableEq, Repr

/-- The grid point below the value, at or under it. -/
def Binary.below (value : Binary) (decimal : Int) : Nat :=
  let scale := value.scale decimal
  value.quarters * scale.twos / scale.tens

/-- The upper of the two grid points around the value is the one to take. -/
def Binary.prefersUpper (value : Binary) (tie : Tie) (decimal : Int) : Bool :=
  let scale := value.scale decimal
  let index := value.below decimal
  let down := value.quarters * scale.twos - index * scale.tens
  let up := (index + 1) * scale.tens - value.quarters * scale.twos
  decide (up < down) ||
    (up == down && (tie == .up || index % 2 == 1))

/-- The grid point that stands for the value on the grid of multiples of
`10 ^ decimal`, if one of the value's two neighbours rounds to it. -/
def Binary.onGrid? (value : Binary) (tie : Tie) (decimal : Int) : Option Nat :=
  let index := value.below decimal
  match value.admits decimal index, value.admits decimal (index + 1) with
  | true, true => some (if value.prefersUpper tie decimal then index + 1 else index)
  | true, false => some index
  | false, true => some (index + 1)
  | false, false => none

def digitCount (number : Nat) : Nat := (Nat.toDigits 10 number).length

/-- The exponent of the leading decimal digit of a positive value. -/
def Binary.leadingExponent (value : Binary) : Int :=
  let numerator := value.significand * Nat.pow 2 value.exponent.toNat
  let denominator := Nat.pow 2 (-value.exponent).toNat
  if denominator ≤ numerator then
    (digitCount (numerator / denominator) : Int) - 1
  else
    -(digitCount ((denominator + numerator - 1) / numerator - 1) : Int)

/-- A decimal: `digits * 10 ^ exponent`. -/
structure Numeral where
  digits : Nat
  exponent : Int
deriving DecidableEq, Repr

/-- The most digits that the shortest decimal of a double can have. -/
def mostDigits : Nat := 17

/-- The decimal with the fewest digits that reads back as the value. -/
def Binary.shortest (value : Binary) (tie : Tie) : Numeral :=
  let leading := value.leadingExponent
  let nearest := (List.range mostDigits).findSome? fun further =>
    let decimal := leading - Int.ofNat further
    (value.onGrid? tie decimal).map fun index => Numeral.mk index decimal
  nearest.getD ⟨value.significand, value.exponent⟩

end Telemetry.Decimal

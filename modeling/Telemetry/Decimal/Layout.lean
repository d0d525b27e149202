import Telemetry.Decimal.Shortest

/-!
Contract: the written form of a double.

Owns: the decisions that one written form makes (where positional notation
ends, whether a whole number shows a fraction, which of two equally near
decimals is taken), as one record, and the text under such a record.

Does not own: which record a format uses.
-/

namespace Telemetry.Decimal

/-- The decisions of one written form. `positional` says for the exponent of
the leading digit whether the number is written without an exponent. -/
structure Layout where
  positional : Int → Bool
  wholeShowsFraction : Bool
  tie : Tie

/-- The digits of a whole number without the zeros at its end, and the exponent
of the leading digit. -/
def Numeral.leadingDigits (decimal : Numeral) : List Char × Int :=
  let written := Nat.toDigits 10 decimal.digits
  let trimmed := (written.reverse.dropWhile (· == '0')).reverse
  (trimmed, decimal.exponent + written.length - 1)

def Layout.pointed
    (layout : Layout)
    (digits : List Char)
    (leading : Int) : List Char :=
  let fraction := if layout.wholeShowsFraction then ['.', '0'] else []
  if leading < 0 then
    ['0', '.'] ++ List.replicate (-leading - 1).toNat '0' ++ digits
  else
    let whole := leading.toNat + 1
    if digits.length ≤ whole then
      digits ++ List.replicate (whole - digits.length) '0' ++ fraction
    else
      digits.take whole ++ ['.'] ++ digits.drop whole

/-- One digit before the point, and the exponent with its sign. -/
def scientific (digits : List Char) (leading : Int) : List Char :=
  let sign := if leading < 0 then '-' else '+'
  let mantissa := match digits with
    | [] => []
    | [digit] => [digit]
    | digit :: rest => digit :: '.' :: rest
  mantissa ++ ['e', sign] ++ Nat.toDigits 10 leading.natAbs

/-- The text of a positive magnitude. -/
def Layout.magnitude (layout : Layout) (value : Binary) : List Char :=
  let (digits, leading) := (value.shortest layout.tie).leadingDigits
  if layout.positional leading then
    layout.pointed digits leading
  else
    scientific digits leading

/-- The text of a double. -/
def Layout.characters (layout : Layout) (value : Float) : List Char :=
  if value.isNaN then
    ['N', 'a', 'N']
  else
    let sign := if isNegative value then ['-'] else []
    if value.isInf then
      sign ++ ['i', 'n', 'f']
    else
      let binary := Binary.ofFloat value
      if binary.significand = 0 then
        sign ++ layout.pointed ['0'] 0
      else
        sign ++ layout.magnitude binary

/-- Every number is written without an exponent, and a whole number without a
fraction. -/
def Layout.plain : Layout where
  positional := fun _ => true
  wholeShowsFraction := false
  tie := .up

example : Layout.plain.characters 2.5 = ['2', '.', '5'] := by decide +kernel

end Telemetry.Decimal

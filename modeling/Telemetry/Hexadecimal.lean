/-!
Contract: hexadecimal digits.

Owns: the digit of a value in either case of letters, and the value of a digit.

Does not own: how many digits a format writes.
-/

namespace Telemetry.Hexadecimal

/-- The lower-case digit of a value below sixteen. -/
def lower (value : Nat) : Char := Nat.digitChar value

/-- The upper-case digit of a value below sixteen. -/
def upper (value : Nat) : Char :=
  if value < 10 then
    Char.ofNat ('0'.toNat + value)
  else
    Char.ofNat ('A'.toNat + (value - 10))

/-- The value of a digit in either case of letters. -/
def value? (character : Char) : Option Nat :=
  if '0' ≤ character ∧ character ≤ '9' then
    some (character.toNat - '0'.toNat)
  else if 'a' ≤ character ∧ character ≤ 'f' then
    some (character.toNat - 'a'.toNat + 10)
  else if 'A' ≤ character ∧ character ≤ 'F' then
    some (character.toNat - 'A'.toNat + 10)
  else
    none

/-- The number that digits stand for, most significant first. -/
def number? (digits : List Char) : Option Nat :=
  digits.foldlM (fun number digit => (value? digit).map (number * 16 + ·)) 0

theorem value?_lower : ∀ value : Fin 16, value? (lower value.val) = some value.val := by
  decide

theorem value?_upper : ∀ value : Fin 16, value? (upper value.val) = some value.val := by
  decide

end Telemetry.Hexadecimal

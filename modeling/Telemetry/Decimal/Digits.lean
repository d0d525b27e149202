/-!
Contract: whole numbers written in ASCII decimal digits.

Owns:
- the value of a run of digits, and the run at the start of a text;
- reading a whole number with an optional sign, and writing one.

Does not own: the range a caller accepts.
-/

namespace Telemetry.Decimal

/-- One of `0` to `9`. -/
def isDigit (character : Char) : Bool :=
  '0' ≤ character && character ≤ '9'

def digitValue (character : Char) : Nat := character.toNat - '0'.toNat

/-- The value of a run of digits, most significant first. -/
def digitsValue (digits : List Char) : Nat :=
  digits.foldl (fun value digit => 10 * value + digitValue digit) 0

/-- The run of digits at the start, and what follows it. -/
def takeDigits (characters : List Char) : List Char × List Char :=
  (characters.takeWhile isDigit, characters.dropWhile isDigit)

/-- The value of a text of digits only; `none` if there is none or another
character. -/
def readDigits? (characters : List Char) : Option Nat :=
  if characters.isEmpty || !characters.all isDigit then
    none
  else
    some (digitsValue characters)

/-- A whole number with an optional plus sign. -/
def readNat? (text : String) : Option Nat :=
  match text.toList with
  | '+' :: rest => readDigits? rest
  | characters => readDigits? characters

/-- A whole number with an optional sign. -/
def readInt? (text : String) : Option Int :=
  match text.toList with
  | '+' :: rest => (readDigits? rest).map Int.ofNat
  | '-' :: rest => (readDigits? rest).map fun value => -Int.ofNat value
  | characters => (readDigits? characters).map Int.ofNat

/-- The digits of a whole number, with a minus sign before those of a negative
one. -/
def integerCharacters (value : Int) : List Char :=
  let digits := Nat.toDigits 10 value.natAbs
  if value < 0 then '-' :: digits else digits

/-- The text of a whole number. -/
def integerText (value : Int) : String := String.ofList (integerCharacters value)

example : readInt? "-0012" = some (-12) := by decide

example : readNat? "+" = none := by decide

end Telemetry.Decimal

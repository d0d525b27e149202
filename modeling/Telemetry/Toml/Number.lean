import Telemetry.Decimal.Reading
import Telemetry.Hexadecimal
import Telemetry.Toml
import Telemetry.Toml.Blank

/-!
Contract: numbers and truth values of the TOML data format.

Owns:
- whole numbers in four bases within the signed 64-bit range;
- doubles with a fraction or an exponent, infinity and no number;
- underscores, which may stand between two digits.

Does not own: dates, whose first part looks like a number.
-/

namespace Telemetry.Toml

def leastInteger : Int := -0x8000000000000000

def greatestInteger : Int := 0x7FFFFFFFFFFFFFFF

/-- Further digits, each after an underscore or not, without the underscores. -/
def readMoreDigits (isDigit : Char → Bool) : Reader (List Char)
  | [] => some ([], [])
  | '_' :: digit :: rest =>
    if isDigit digit then do
      let (others, rest) ← readMoreDigits isDigit rest
      some (digit :: others, rest)
    else
      none
  | digit :: rest =>
    if isDigit digit then do
      let (others, rest) ← readMoreDigits isDigit rest
      some (digit :: others, rest)
    else if digit = '_' then
      none
    else
      some ([], digit :: rest)

def readDigits (isDigit : Char → Bool) : Reader (List Char)
  | [] => none
  | digit :: rest =>
    if isDigit digit then do
      let (others, rest) ← readMoreDigits isDigit rest
      some (digit :: others, rest)
    else
      none

/-- A minus sign if there is one; a plus sign is left out. -/
def takeSign : List Char → List Char × List Char
  | '-' :: rest => (['-'], rest)
  | '+' :: rest => ([], rest)
  | characters => ([], characters)

/-- Decimal digits of a whole part: zero alone, or digits that do not start with
it. -/
def readWhole : Reader (List Char)
  | '0' :: rest => some (['0'], rest)
  | characters => readDigits Decimal.isDigit characters

def baseValue (base : Nat) (digits : List Char) : Int :=
  digits.foldl (fun value digit => base * value + (Hexadecimal.value? digit).getD 0) (0 : Nat)

def isBaseDigit (base : Nat) (character : Char) : Bool :=
  match Hexadecimal.value? character with
  | some value => decide (value < base)
  | none => false

def inRange? (value : Int) : Option Int :=
  if leastInteger ≤ value ∧ value ≤ greatestInteger then some value else none

/-- A whole number in a base, after its mark. -/
def readBased (base : Nat) : Reader Int := fun characters => do
  let (digits, rest) ← readDigits (isBaseDigit base) characters
  let value ← inRange? (baseValue base digits)
  some (value, rest)

def readDecimal : Reader Int := fun characters => do
  let (sign, rest) := takeSign characters
  let (digits, rest) ← readWhole rest
  let size := Int.ofNat (Decimal.digitsValue digits)
  let value ← inRange? (if sign.isEmpty then size else -size)
  some (value, rest)

/-- A whole number. Only a decimal one has a sign. -/
def readInteger : Reader Int
  | '0' :: 'x' :: rest => readBased 16 rest
  | '0' :: 'o' :: rest => readBased 8 rest
  | '0' :: 'b' :: rest => readBased 2 rest
  | characters => readDecimal characters

/-- An exponent if there is one, with its mark. -/
def readExponent : Reader (List Char)
  | mark :: rest =>
    if mark = 'e' || mark = 'E' then do
      let (sign, rest) := takeSign rest
      let (digits, rest) ← readDigits Decimal.isDigit rest
      some ('e' :: sign ++ digits, rest)
    else
      some ([], mark :: rest)
  | [] => some ([], [])

/-- A fraction if there is one, with its point. -/
def readFraction : Reader (List Char)
  | '.' :: rest => do
    let (digits, rest) ← readDigits Decimal.isDigit rest
    some ('.' :: digits, rest)
  | characters => some ([], characters)

/-- A double with a fraction or an exponent or both. One that is too large is
refused, though a negative one is not. -/
def readFinite : Reader Float := fun characters => do
  let (sign, rest) := takeSign characters
  let (whole, rest) ← readWhole rest
  let (fraction, rest) ← readFraction rest
  let (exponent, rest) ← readExponent rest
  if fraction.isEmpty && exponent.isEmpty then
    none
  else
    let value ← Decimal.readFloat? (String.ofList (sign ++ whole ++ fraction ++ exponent))
    if value == 1.0 / 0.0 then none else some (value, rest)

/-- The words for doubles that are not finite. -/
def readSpecial : Reader Float := fun characters =>
  let (sign, rest) := takeSign characters
  match rest with
  | 'i' :: 'n' :: 'f' :: rest => some (Decimal.signed (!sign.isEmpty) (1.0 / 0.0), rest)
  | 'n' :: 'a' :: 'n' :: rest => some (Decimal.signed (!sign.isEmpty) (0.0 / 0.0), rest)
  | _ => none

/-- A number or a truth value. -/
def readPlainValue : Reader Toml
  | 't' :: 'r' :: 'u' :: 'e' :: rest => some (.boolean true, rest)
  | 'f' :: 'a' :: 'l' :: 's' :: 'e' :: rest => some (.boolean false, rest)
  | characters =>
    match (readFinite characters).or (readSpecial characters) with
    | some (value, rest) => some (.float value, rest)
    | none => (readInteger characters).map fun read => (.integer read.1, read.2)

end Telemetry.Toml

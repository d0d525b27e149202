import Telemetry.Decimal.Reading
import Telemetry.Hexadecimal
import Telemetry.Json

/-!
Contract: JSON values from text.

Owns:
- the grammar: blanks, literals, numbers, texts with escapes, arrays and
  objects, nothing after the value but blanks;
- the limit on nesting, and the rule that the last of equal keys wins.

Does not own: why a text was refused; a text is read or it is not.

Every reader takes the characters that are left and gives back its result with
what follows it. Repetition is bounded by those characters themselves, since each
turn takes one at least.
-/

namespace Telemetry.Json

/-- A reader of the characters that are left. -/
abbrev Reader (α : Type) := List Char → Option (α × List Char)

/-- The blanks between tokens. -/
def isSpace (character : Char) : Bool :=
  character == ' ' || character == '\n' || character == '\t' || character == '\r'

def skipSpace (characters : List Char) : List Char := characters.dropWhile isSpace

/-- Four hexadecimal digits: one UTF-16 unit. -/
def readUnit : Reader Nat
  | a :: b :: c :: d :: rest => do
    let a ← Hexadecimal.value? a
    let b ← Hexadecimal.value? b
    let c ← Hexadecimal.value? c
    let d ← Hexadecimal.value? d
    some (((a * 16 + b) * 16 + c) * 16 + d, rest)
  | _ => none

def isLeadingSurrogate (unit : Nat) : Bool := decide (0xD800 ≤ unit) && decide (unit ≤ 0xDBFF)

def isTrailingSurrogate (unit : Nat) : Bool := decide (0xDC00 ≤ unit) && decide (unit ≤ 0xDFFF)

/-- The character of a code point written in UTF-16 units; a surrogate must be
half of a pair. -/
def readCodePoint : Reader Char := fun characters => do
  let (unit, rest) ← readUnit characters
  if isLeadingSurrogate unit then
    match rest with
    | '\\' :: 'u' :: after =>
      let (trailing, rest) ← readUnit after
      if isTrailingSurrogate trailing then
        some (Char.ofNat ((unit - 0xD800) * 0x400 + (trailing - 0xDC00) + 0x10000), rest)
      else
        none
    | _ => none
  else if isTrailingSurrogate unit then
    none
  else
    some (Char.ofNat unit, rest)

/-- The character of an escape, after the backslash. -/
def readEscape : Reader Char
  | '"' :: rest => some ('"', rest)
  | '\\' :: rest => some ('\\', rest)
  | '/' :: rest => some ('/', rest)
  | 'b' :: rest => some ('\x08', rest)
  | 'f' :: rest => some ('\x0c', rest)
  | 'n' :: rest => some ('\x0a', rest)
  | 'r' :: rest => some ('\x0d', rest)
  | 't' :: rest => some ('\x09', rest)
  | 'u' :: rest => readCodePoint rest
  | _ => none

/-- The characters of a text up to the closing quote, at most as many as `bound`
has. Control characters must be escaped. -/
def readCharacters : (bound : List Char) → Reader (List Char)
  | [], _ => none
  | _ :: _, [] => none
  | _ :: bound, character :: rest =>
    if character = '"' then
      some ([], rest)
    else if character = '\\' then do
      let (read, rest) ← readEscape rest
      let (others, rest) ← readCharacters bound rest
      some (read :: others, rest)
    else if character.toNat < 0x20 then
      none
    else do
      let (others, rest) ← readCharacters bound rest
      some (character :: others, rest)

/-- A text, after the opening quote. -/
def readText : Reader String := fun characters => do
  let (read, rest) ← readCharacters characters characters
  some (String.ofList read, rest)

/-- The digits of a number as they are kept: a significand of 64 bits, and the
exponent that the digits after it add. -/
structure Significand where
  value : Nat
  exponent : Int
deriving DecidableEq, Repr

/-- Keeps one more digit if the significand has room for it. -/
def Significand.room (significand : Significand) (digit : Char) : Bool :=
  decide (significand.value * 10 + Decimal.digitValue digit ≤ 0xFFFFFFFFFFFFFFFF)

/-- Whole digits: each is kept while there is room, and the rest only count. -/
def Significand.addWhole : Significand → List Char → Significand
  | significand, [] => significand
  | significand, digit :: rest =>
    if significand.room digit then
      addWhole
        ⟨significand.value * 10 + Decimal.digitValue digit, significand.exponent⟩
        rest
    else
      ⟨significand.value, significand.exponent + (digit :: rest).length⟩

/-- Digits of the fraction: each is kept while there is room, and the rest are
left out. -/
def Significand.addFraction : Significand → List Char → Significand
  | significand, [] => significand
  | significand, digit :: rest =>
    if significand.room digit then
      addFraction
        ⟨significand.value * 10 + Decimal.digitValue digit, significand.exponent - 1⟩
        rest
    else
      significand

/-- The exponent after its mark. -/
def readExponent : Reader Int := fun characters =>
  let (negative, digits) := match characters with
    | '-' :: rest => (true, rest)
    | '+' :: rest => (false, rest)
    | other => (false, other)
  let (written, rest) := Decimal.takeDigits digits
  if written.isEmpty then
    none
  else
    let value : Int := Decimal.digitsValue written
    some (if negative then -value else value, rest)

/-- A whole number, or the double if it has no 64-bit form. Zero with a minus
sign is a double. -/
def wholeNumber (negative : Bool) (digits : List Char) : Option Json :=
  let value : Int := Decimal.digitsValue digits
  if !negative && decide (value ≤ greatestUnsigned) then
    some (.integer value)
  else if negative && decide (0 < value) && decide (leastSigned ≤ -value) then
    some (.integer (-value))
  else
    let kept := Significand.addWhole ⟨0, 0⟩ digits
    (Decimal.scaled? (UInt64.ofNat kept.value) kept.exponent).map fun value =>
      .float (Decimal.signed negative value)

def doubleNumber (negative : Bool) (kept : Significand) (exponent : Int) : Option Json :=
  (Decimal.scaled? (UInt64.ofNat kept.value) (kept.exponent + exponent)).map fun value =>
    .float (Decimal.signed negative value)

/-- The digits before the point: `0` alone, or digits that do not start with it. -/
def readWhole : Reader (List Char) := fun characters =>
  match Decimal.takeDigits characters with
  | ([], _) => none
  | (['0'], rest) => some (['0'], rest)
  | ('0' :: _, _) => none
  | (digits, rest) => some (digits, rest)

/-- A number after its sign. -/
def readUnsignedNumber (negative : Bool) : Reader Json := fun characters => do
  let (whole, rest) ← readWhole characters
  let kept := Significand.addWhole ⟨0, 0⟩ whole
  match rest with
  | '.' :: after =>
    let (fraction, rest) := Decimal.takeDigits after
    if fraction.isEmpty then
      none
    else
      let kept := kept.addFraction fraction
      match rest with
      | mark :: after =>
        if mark = 'e' ∨ mark = 'E' then
          let (exponent, rest) ← readExponent after
          let value ← doubleNumber negative kept exponent
          some (value, rest)
        else
          let value ← doubleNumber negative kept 0
          some (value, rest)
      | [] =>
        let value ← doubleNumber negative kept 0
        some (value, rest)
  | mark :: after =>
    if mark = 'e' ∨ mark = 'E' then
      let (exponent, rest) ← readExponent after
      let value ← doubleNumber negative kept exponent
      some (value, rest)
    else
      let value ← wholeNumber negative whole
      some (value, rest)
  | [] =>
    let value ← wholeNumber negative whole
    some (value, rest)

def readNumber : Reader Json
  | '-' :: rest => readUnsignedNumber true rest
  | characters => readUnsignedNumber false characters

/-- Items with commas between them, up to the closing mark, at most as many as
`bound` has characters. -/
def readSeparated {α : Type} (item : Reader α) (close : Char) :
    (bound : List Char) → Reader (List α)
  | [], _ => none
  | _ :: bound, characters => do
    let (value, rest) ← item (skipSpace characters)
    match skipSpace rest with
    | [] => none
    | mark :: rest =>
      if mark = close then
        some ([value], rest)
      else if mark = ',' then
        let (others, rest) ← readSeparated item close bound rest
        some (value :: others, rest)
      else
        none

/-- Items up to the closing mark, after the opening mark. -/
def readEnclosed {α : Type} (item : Reader α) (close : Char) : Reader (List α) :=
  fun characters =>
    match skipSpace characters with
    | [] => none
    | mark :: rest =>
      if mark = close then
        some ([], rest)
      else
        readSeparated item close characters characters

/-- A member: a text, a colon and a value. -/
def readMember {α : Type} (item : Reader α) : Reader (String × α)
  | '"' :: rest => do
    let (key, rest) ← readText rest
    match skipSpace rest with
    | ':' :: rest =>
      let (value, rest) ← item (skipSpace rest)
      some ((key, value), rest)
    | _ => none
  | _ => none

/-- A value with at most `depth` arrays and objects around each other. -/
def readValue : (depth : Nat) → Reader Json
  | _, 'n' :: 'u' :: 'l' :: 'l' :: rest => some (.null, rest)
  | _, 't' :: 'r' :: 'u' :: 'e' :: rest => some (.bool true, rest)
  | _, 'f' :: 'a' :: 'l' :: 's' :: 'e' :: rest => some (.bool false, rest)
  | _, '"' :: rest => do
    let (read, rest) ← readText rest
    some (.string read, rest)
  | depth + 1, '[' :: rest => do
    let (items, rest) ← readEnclosed (readValue depth) ']' rest
    some (.array items, rest)
  | depth + 1, '\x7b' :: rest => do
    let (members, rest) ← readEnclosed (readMember (readValue depth)) '\x7d' rest
    some (.object (Entries.ofPairs members), rest)
  | _, characters => readNumber characters

/-- The most arrays and objects that may stand around each other. -/
def nestingLimit : Nat := 127

/-- The result of a reader that must take the whole text, blanks apart. -/
def readAll? {α : Type} (reader : Reader α) (text : String) : Option α :=
  match reader (skipSpace text.toList) with
  | some (value, rest) => if (skipSpace rest).isEmpty then some value else none
  | none => none

def parse? (text : String) : Option Json := readAll? (readValue nestingLimit) text

end Telemetry.Json

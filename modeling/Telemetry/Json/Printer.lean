import Telemetry.Decimal.Digits
import Telemetry.Decimal.Layout
import Telemetry.Hexadecimal
import Telemetry.Json

/-!
Contract: the compact text of a JSON value.

Owns:
- the spelling of texts, numbers, arrays and objects, without blanks;
- the layout of doubles in JSON.

Does not own: the order of members, which is that of the value.
-/

namespace Telemetry.Json

/-- Doubles are written without an exponent while the leading digit's exponent
is from -5 to 15; a whole one shows a fraction, and of two equally near
decimals the one with an even last digit is taken. -/
def numberLayout : Decimal.Layout where
  positional := fun leading => decide (-5 ≤ leading) && decide (leading < 16)
  wholeShowsFraction := true
  tie := .toEven

/-- The two lower-case hexadecimal digits of a control character. -/
def controlDigits (character : Char) : List Char :=
  [Hexadecimal.lower (character.toNat / 16), Hexadecimal.lower (character.toNat % 16)]

/-- One character as it stands between the quotes of a text. -/
def escaped (character : Char) : List Char :=
  match character with
  | '"' => ['\\', '"']
  | '\\' => ['\\', '\\']
  | '\x08' => ['\\', 'b']
  | '\x09' => ['\\', 't']
  | '\x0a' => ['\\', 'n']
  | '\x0c' => ['\\', 'f']
  | '\x0d' => ['\\', 'r']
  | other =>
    if other.toNat < 0x20 then ['\\', 'u', '0', '0'] ++ controlDigits other else [other]

def renderString (text : String) : List Char :=
  ['"'] ++ text.toList.flatMap escaped ++ ['"']

/-- Parts between two marks, with commas between the parts. -/
def enclosed (first last : Char) (parts : List (List Char)) : List Char :=
  [first] ++ List.intercalate [','] parts ++ [last]

/-- A member: the key, a colon and the written value. -/
def renderMember (key : String) (value : List Char) : List Char :=
  renderString key ++ [':'] ++ value

mutual

/-- The compact text of a value, as characters. -/
def render : Json → List Char
  | .null => ['n', 'u', 'l', 'l']
  | .bool true => ['t', 'r', 'u', 'e']
  | .bool false => ['f', 'a', 'l', 's', 'e']
  | .integer value => Decimal.integerCharacters value
  | .float value => numberLayout.characters value
  | .string text => renderString text
  | .array items => enclosed '[' ']' (renderItems items)
  | .object members => enclosed '\x7b' '\x7d' (renderMembers members)

def renderItems : List Json → List (List Char)
  | [] => []
  | value :: rest => render value :: renderItems rest

def renderMembers : List (String × Json) → List (List Char)
  | [] => []
  | (key, value) :: rest => renderMember key (render value) :: renderMembers rest

end

def text (value : Json) : String := String.ofList value.render

end Telemetry.Json

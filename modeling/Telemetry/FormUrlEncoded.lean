import Telemetry.Hexadecimal

/-!
Contract: pairs of texts in the form that queries use.

Owns:
- the bytes that stand for themselves, the sign for a space, and the escape of
  every other byte;
- the encoded pairs, and their decoding.

Does not own: where a query stands in a request.
-/

namespace Telemetry.FormUrlEncoded

/-- Letters, digits and four marks stand for themselves. -/
def isPlain (byte : UInt8) : Bool :=
  let code := byte.toNat
  (48 ≤ code && code ≤ 57) || (65 ≤ code && code ≤ 90) || (97 ≤ code && code ≤ 122) ||
    code == 42 || code == 45 || code == 46 || code == 95

/-- One byte: itself, a plus sign for a space, or an escape of three characters. -/
def encodeByte (byte : UInt8) : List Char :=
  if isPlain byte then
    [Char.ofNat byte.toNat]
  else if byte = 32 then
    ['+']
  else
    ['%', Hexadecimal.upper (byte.toNat / 16), Hexadecimal.upper (byte.toNat % 16)]

def encodeText (text : String) : List Char :=
  text.toUTF8.toList.flatMap encodeByte

/-- A key, an equals sign and a value. -/
def encodePair (pair : String × String) : List Char :=
  encodeText pair.1 ++ ['='] ++ encodeText pair.2

/-- The pairs with ampersands between them. -/
def encode (pairs : List (String × String)) : List Char :=
  List.intercalate ['&'] (pairs.map encodePair)

def decodeBytes? : List Char → Option (List UInt8)
  | [] => some []
  | '%' :: first :: second :: rest => do
    let first ← Hexadecimal.value? first
    let second ← Hexadecimal.value? second
    let others ← decodeBytes? rest
    some (UInt8.ofNat (first * 16 + second) :: others)
  | '+' :: rest => (decodeBytes? rest).map (32 :: ·)
  | character :: rest =>
    if isPlain (UInt8.ofNat character.toNat) && decide (character.toNat < 128) then
      (decodeBytes? rest).map (UInt8.ofNat character.toNat :: ·)
    else
      none

def decodeText? (characters : List Char) : Option String :=
  (decodeBytes? characters).bind fun bytes =>
    String.fromUTF8? (ByteArray.mk bytes.toArray)

/-- The parts between the occurrences of `mark`. -/
def splitAtMark (mark : Char) : List Char → List (List Char)
  | [] => [[]]
  | character :: rest =>
    match splitAtMark mark rest with
    | [] => [[]]
    | part :: parts =>
      if character = mark then
        [] :: part :: parts
      else
        (character :: part) :: parts

/-- The pair of an encoded part, which holds one equals sign. -/
def decodePair? (part : List Char) : Option (String × String) :=
  match splitAtMark '=' part with
  | [key, value] => do
    let key ← decodeText? key
    let value ← decodeText? value
    some (key, value)
  | _ => none

/-- The pairs of an encoded query. -/
def decode? (characters : List Char) : Option (List (String × String)) :=
  if characters.isEmpty then
    some []
  else
    (splitAtMark '&' characters).mapM decodePair?

example : String.ofList (encode [("a b", "é&"), ("c", "")]) = "a+b=%C3%A9%26&c=" := by
  decide +kernel

end Telemetry.FormUrlEncoded

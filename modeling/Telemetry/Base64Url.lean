/-!
Contract: bytes as text in the URL-safe base-64 alphabet, without padding.

Owns: the alphabet, the encoder and the decoder.

Does not own: how a text becomes bytes, apart from `encodeText` and
`decodeText?`, which use UTF-8.
-/

namespace Telemetry.Base64Url

/-- The character that stands for six bits. -/
def digit (value : Nat) : Char :=
  if value < 26 then
    Char.ofNat ('A'.toNat + value)
  else if value < 52 then
    Char.ofNat ('a'.toNat + (value - 26))
  else if value < 62 then
    Char.ofNat ('0'.toNat + (value - 52))
  else if value = 62 then
    '-'
  else
    '_'

/-- The six bits that a character stands for. -/
def value? (character : Char) : Option Nat :=
  if 'A' ≤ character ∧ character ≤ 'Z' then
    some (character.toNat - 'A'.toNat)
  else if 'a' ≤ character ∧ character ≤ 'z' then
    some (character.toNat - 'a'.toNat + 26)
  else if '0' ≤ character ∧ character ≤ '9' then
    some (character.toNat - '0'.toNat + 52)
  else if character = '-' then
    some 62
  else if character = '_' then
    some 63
  else
    none

/-- Three bytes give four characters; one byte left over gives two and two give
three. -/
def encode : List UInt8 → List Char
  | [] => []
  | [a] =>
    let a := a.toNat
    [digit (a / 4), digit (a % 4 * 16)]
  | [a, b] =>
    let a := a.toNat
    let b := b.toNat
    [digit (a / 4), digit (a % 4 * 16 + b / 16), digit (b % 16 * 4)]
  | a :: b :: c :: rest =>
    let x := a.toNat
    let y := b.toNat
    let z := c.toNat
    digit (x / 4) :: digit (x % 4 * 16 + y / 16) :: digit (y % 16 * 4 + z / 64) ::
      digit (z % 64) :: encode rest

/-- The bytes of four, three or two characters at a time. The bits that a last
group leaves over must be zero. -/
def decode? : List Char → Option (List UInt8)
  | [] => some []
  | [_] => none
  | [a, b] => do
    let a ← value? a
    let b ← value? b
    if b % 16 = 0 then some [UInt8.ofNat (a * 4 + b / 16)] else none
  | [a, b, c] => do
    let a ← value? a
    let b ← value? b
    let c ← value? c
    if c % 4 = 0 then
      some [UInt8.ofNat (a * 4 + b / 16), UInt8.ofNat (b % 16 * 16 + c / 4)]
    else
      none
  | a :: b :: c :: d :: rest => do
    let a ← value? a
    let b ← value? b
    let c ← value? c
    let d ← value? d
    let others ← decode? rest
    some (UInt8.ofNat (a * 4 + b / 16) :: UInt8.ofNat (b % 16 * 16 + c / 4) ::
      UInt8.ofNat (c % 4 * 64 + d) :: others)

def encodeText (text : String) : String :=
  String.ofList (encode text.toUTF8.toList)

/-- The text whose UTF-8 bytes are encoded. -/
def decodeText? (text : String) : Option String :=
  (decode? text.toList).bind fun bytes => String.fromUTF8? (ByteArray.mk bytes.toArray)

example : encodeText "ab>" = "YWI-" := by decide +kernel

example : decodeText? "YWI-" = some "ab>" := by decide +kernel

end Telemetry.Base64Url

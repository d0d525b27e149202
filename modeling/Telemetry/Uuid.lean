import Telemetry.Hexadecimal

/-!
Contract: 128-bit identifiers and where new ones come from.

Owns:
- the identifier and its hyphenated text, in both directions;
- the form of a random identifier (version 4);
- the source of new identifiers, as a stream with a position.

Does not own: the randomness itself; the stream is the caller's.
-/

namespace Telemetry

/-- A 128-bit identifier. -/
structure Uuid where
  bits : BitVec 128
deriving DecidableEq, Repr

namespace Uuid

/-- The identifier with all bits zero. -/
def zero : Uuid := ⟨0⟩

/-- `count` lower-case hexadecimal digits of a number, most significant first. -/
def hexDigits : (count : Nat) → Nat → List Char
  | 0, _ => []
  | count + 1, number => hexDigits count (number / 16) ++ [Hexadecimal.lower (number % 16)]

/-- Cuts digits into groups with hyphens between them. -/
def hyphenated (digits : List Char) : List Char :=
  digits.take 8 ++ ['-'] ++ (digits.drop 8).take 4 ++ ['-'] ++ (digits.drop 12).take 4 ++
    ['-'] ++ (digits.drop 16).take 4 ++ ['-'] ++ digits.drop 20

/-- The hyphenated text in lower case. -/
def text (uuid : Uuid) : String :=
  String.ofList (hyphenated (hexDigits 32 uuid.bits.toNat))

/-- The identifier of a hyphenated text. -/
def parse? (text : String) : Option Uuid :=
  let characters := text.toList
  let digits := characters.filter (· ≠ '-')
  if hyphenated digits = characters ∧ digits.length = 32 then
    (Hexadecimal.number? digits).map fun number => ⟨BitVec.ofNat 128 number⟩
  else
    none

/-- A random identifier: the four version bits say 4, and the two variant bits
are `10`. The other bits are those of `random`. -/
def version4 (random : BitVec 128) : Uuid :=
  let cleared := random &&& ~~~(BitVec.ofNat 128 (0xF000C000000000000000))
  ⟨cleared ||| BitVec.ofNat 128 (0x40008000000000000000)⟩

end Uuid

/-- Where new identifiers come from: a stream and how many were drawn. -/
structure UuidSource where
  stream : Nat → Uuid
  drawn : Nat

namespace UuidSource

/-- The identifier that is drawn next. -/
def next (source : UuidSource) : Uuid := source.stream source.drawn

/-- The source after `count` draws. -/
def skip (source : UuidSource) (count : Nat) : UuidSource :=
  { source with drawn := source.drawn + count }

def draw (source : UuidSource) : Uuid × UuidSource := (source.next, source.skip 1)

end UuidSource

example : Uuid.zero.text = "00000000-0000-0000-0000-000000000000" := by decide +kernel

example : (Uuid.parse? "0000000A-0000-1000-8000-000000000063").map Uuid.text =
    some "0000000a-0000-1000-8000-000000000063" := by decide +kernel

end Telemetry

import Std.Data.HashMap
import Std.Data.HashSet
import Telemetry.Base64Url
import Telemetry.Json
import Telemetry.Schemas

/-!
Contract: reports in which random identifiers are replaced by numbered names, so
that two reports of the same events can be compared.

Owns:
- where a text holds an identifier, and which identifiers are random;
- the numbering in the order in which identifiers are met, also inside texts
  that are encoded under a payload's keys.

Does not own: which identifiers are kept because the reader knows them.
-/

namespace Telemetry.Pseudonyms

def isHexDigit (character : Char) : Bool :=
  ('0' ≤ character && character ≤ '9') || ('a' ≤ character && character ≤ 'f')

def hyphenPlaces : List Nat := [8, 13, 18, 23]

/-- The number of characters of the text of an identifier. -/
def identifierLength : Nat := 36

def fits : (place : Nat) → List Char → Bool
  | _, [] => true
  | place, character :: rest =>
    (if hyphenPlaces.contains place then character == '-' else isHexDigit character) &&
      fits (place + 1) rest

/-- The identifier that the characters start with. -/
def leading? (characters : List Char) : Option (List Char) :=
  let first := characters.take identifierLength
  if first.length = identifierLength && fits 0 first then some first else none

def isRandom (identifier : List Char) : Bool :=
  identifier[14]? == some '4' &&
    (identifier[19]?.map fun mark => ['8', '9', 'a', 'b'].contains mark).getD false

/-- All identifiers in a text, also overlapping ones. -/
def identifiers : List Char → Std.HashSet String
  | [] => {}
  | character :: rest =>
    match leading? (character :: rest) with
    | some found => (identifiers rest).insert (String.ofList found)
    | none => identifiers rest

/-- The identifiers that are kept, and the numbers given so far. -/
structure Naming where
  kept : Std.HashSet String
  given : Std.HashMap String Nat := {}

def name (number : Nat) : List Char :=
  let digits := Nat.toDigits 10 number
  "uuid####-####-####-####-".toList ++ List.replicate (12 - digits.length) '0' ++ digits

/-- The number of an identifier, a new one if it has none yet. -/
def Naming.number (naming : Naming) (identifier : String) : Nat × Naming :=
  match naming.given[identifier]? with
  | some number => (number, naming)
  | none =>
    let number := naming.given.size + 1
    (number, { naming with given := naming.given.insert identifier number })

/-- Replaces the random identifiers of a text that are not kept. `skip` counts
the characters of an identifier that was dealt with. -/
def replaceIn : (skip : Nat) → List Char → Naming → List Char × Naming
  | _, [], naming => ([], naming)
  | skip + 1, _ :: rest, naming => replaceIn skip rest naming
  | 0, character :: rest, naming =>
    match leading? (character :: rest) with
    | some found =>
      if isRandom found then
        let identifier := String.ofList found
        if naming.kept.contains identifier then
          let (others, naming) := replaceIn (identifierLength - 1) rest naming
          (found ++ others, naming)
        else
          let (number, naming) := naming.number identifier
          let (others, naming) := replaceIn (identifierLength - 1) rest naming
          (name number ++ others, naming)
      else
        let (others, naming) := replaceIn 0 rest naming
        (character :: others, naming)
    | none =>
      let (others, naming) := replaceIn 0 rest naming
      (character :: others, naming)

/-- A text with its identifiers replaced. -/
def text (value : String) (naming : Naming) : String × Naming :=
  let (characters, naming) := replaceIn 0 value.toList naming
  (String.ofList characters, naming)

/-- A text under a key. Under the keys of encoded values it is decoded first if
it can be, and encoded again. -/
def textUnder (key value : String) (naming : Naming) : String × Naming :=
  if key = Keys.contextEncoded ∨ key = Keys.unstructuredEncoded then
    match Base64Url.decodeText? value with
    | some plain =>
      let (plain, naming) := text plain naming
      (Base64Url.encodeText plain, naming)
    | none => text value naming
  else
    text value naming

mutual

/-- A value under a key with the identifiers in its texts replaced. -/
def valueUnder (key : String) : Json → Naming → Json × Naming
  | .string value, naming =>
    let (value, naming) := textUnder key value naming
    (.string value, naming)
  | .array items, naming =>
    let (items, naming) := itemsIn items naming
    (.array items, naming)
  | .object members, naming =>
    let (members, naming) := membersIn members naming
    (.object members, naming)
  | other, naming => (other, naming)

/-- The items of an array, in order. -/
def itemsIn : List Json → Naming → List Json × Naming
  | [], naming => ([], naming)
  | item :: rest, naming =>
    let (item, naming) := valueUnder "" item naming
    let (rest, naming) := itemsIn rest naming
    (item :: rest, naming)

/-- The members of an object, in order. -/
def membersIn : List (String × Json) → Naming → List (String × Json) × Naming
  | [], naming => ([], naming)
  | (key, value) :: rest, naming =>
    let (value, naming) := valueUnder key value naming
    let (rest, naming) := membersIn rest naming
    ((key, value) :: rest, naming)

end

/-- A report with its random identifiers replaced, apart from those that occur in
`known` in any case of letters. -/
def report (known : String) (value : Json) : Json :=
  (valueUnder "" value { kept := identifiers (known.toList.map Char.toLower) }).1

end Telemetry.Pseudonyms

import Telemetry.Entries

/-!
Contract: values of the JSON data format as the library holds them.

Owns:
- the value type, with whole numbers and doubles apart, and objects as entries
  in ascending key order;
- decidable equality and the typed views of a value.

Does not own: text. A value made only by this library keeps its objects in
order, which `Json.Canonical` states.
-/

namespace Telemetry

inductive Json where
  | null
  | bool (value : Bool)
  | integer (value : Int)
  | float (value : Float)
  | string (value : String)
  | array (items : List Json)
  | object (members : List (String × Json))
deriving Repr, Inhabited

/-- The members of an object. -/
abbrev Fields := Entries String Json

namespace Json

mutual

/-- Equality of values, as a test. -/
def same : Json → Json → Bool
  | .null, .null => true
  | .bool left, .bool right => left == right
  | .integer left, .integer right => left == right
  | .float left, .float right => decide (left = right)
  | .string left, .string right => left == right
  | .array left, .array right => sameItems left right
  | .object left, .object right => sameMembers left right
  | _, _ => false

/-- Equality of lists of values, as a test. -/
def sameItems : List Json → List Json → Bool
  | [], [] => true
  | left :: lefts, right :: rights => same left right && sameItems lefts rights
  | _, _ => false

/-- Equality of lists of members, as a test. -/
def sameMembers : List (String × Json) → List (String × Json) → Bool
  | [], [] => true
  | (leftKey, left) :: lefts, (rightKey, right) :: rights =>
    leftKey == rightKey && same left right && sameMembers lefts rights
  | _, _ => false

end

mutual

theorem same_iff : (left right : Json) → (same left right = true ↔ left = right)
  | .null, right => by cases right <;> simp [same]
  | .bool _, right => by cases right <;> simp [same]
  | .integer _, right => by cases right <;> simp [same]
  | .float _, right => by cases right <;> simp [same]
  | .string _, right => by cases right <;> simp [same]
  | .array items, right => by
    cases right <;> simp [same]
    next others => exact sameItems_iff items others
  | .object members, right => by
    cases right <;> simp [same]
    next others => exact sameMembers_iff members others

theorem sameItems_iff : (left right : List Json) →
    (sameItems left right = true ↔ left = right)
  | [], right => by cases right <;> simp [sameItems]
  | value :: rest, right => by
    cases right with
    | nil => simp [sameItems]
    | cons other others =>
      simp [sameItems, same_iff value other, sameItems_iff rest others]

theorem sameMembers_iff : (left right : List (String × Json)) →
    (sameMembers left right = true ↔ left = right)
  | [], right => by cases right <;> simp [sameMembers]
  | (key, value) :: rest, right => by
    cases right with
    | nil => simp [sameMembers]
    | cons other others =>
      obtain ⟨otherKey, otherValue⟩ := other
      simp [sameMembers, same_iff value otherValue, sameMembers_iff rest others]

end

instance : DecidableEq Json := fun left right =>
  decidable_of_iff (same left right = true) (same_iff left right)

/-- The least and greatest whole numbers with a signed 64-bit form. -/
def leastSigned : Int := -0x8000000000000000

def greatestSigned : Int := 0x7FFFFFFFFFFFFFFF

/-- The greatest whole number with an unsigned 64-bit form. -/
def greatestUnsigned : Int := 0xFFFFFFFFFFFFFFFF

/-- The text of a text value. -/
def asString? : Json → Option String
  | .string value => some value
  | _ => none

def asObject? : Json → Option Fields
  | .object members => some members
  | _ => none

def asArray? : Json → Option (List Json)
  | .array items => some items
  | _ => none

def asBool? : Json → Option Bool
  | .bool value => some value
  | _ => none

/-- A whole number that has a signed 64-bit form. A double is never one. -/
def asSigned? : Json → Option Int
  | .integer value =>
    if leastSigned ≤ value ∧ value ≤ greatestSigned then some value else none
  | _ => none

/-- A whole number that has an unsigned 64-bit form. -/
def asUnsigned? : Json → Option Nat
  | .integer value =>
    if 0 ≤ value ∧ value ≤ greatestUnsigned then some value.toNat else none
  | _ => none

/-- The value of a member; `none` for a value that is no object. -/
def field? (value : Json) (key : String) : Option Json :=
  match value with
  | .object members => Entries.get? members key
  | _ => none

/-- An object from pairs, the later of two pairs with one key winning. -/
def ofPairs (pairs : List (String × Json)) : Json := .object (Entries.ofPairs pairs)

end Json

namespace Fields

/-- The text member under `key`. -/
def string? (fields : Fields) (key : String) : Option String :=
  (fields.get? key).bind Json.asString?

theorem string?_eq_some_iff {fields : Fields} {key text : String} :
    fields.string? key = some text ↔ fields.get? key = some (.string text) := by
  rw [string?, Option.bind_eq_some_iff]
  constructor
  · rintro ⟨value, held, isText⟩
    cases value <;> simp_all [Json.asString?]
  · exact fun held => ⟨_, held, rfl⟩

end Fields

end Telemetry

import Telemetry.Json

/-!
Contract: typed reading of the members of an object.

Owns: for each type, the member under a key if it is there and of that type. A
null member counts as absent.

Does not own: what an absent member means.
-/

namespace Telemetry.Json

/-- The member under a key, unless it is absent or null. -/
def member? (value : Json) (key : String) : Option Json :=
  match value.field? key with
  | some .null => none
  | other => other

/-- The member under a key, or null. -/
def memberOrNull (value : Json) (key : String) : Json := (value.field? key).getD .null

/-- A whole number of any size. -/
def asInteger? : Json → Option Int
  | .integer value => some value
  | _ => none

/-- A whole number of any size, a negative one as zero. -/
def asNatural? (value : Json) : Option Nat := value.asInteger?.map Int.toNat

def textAt? (value : Json) (key : String) : Option String := (value.field? key).bind asString?

/-- The text under a key, or the empty one. -/
def textAt (value : Json) (key : String) : String := (value.textAt? key).getD ""

def integerAt? (value : Json) (key : String) : Option Int := (value.field? key).bind asInteger?

def naturalAt? (value : Json) (key : String) : Option Nat := (value.field? key).bind asNatural?

def boolAt? (value : Json) (key : String) : Option Bool := (value.field? key).bind asBool?

/-- The items under a key, or none. -/
def itemsAt (value : Json) (key : String) : List Json :=
  ((value.field? key).bind asArray?).getD []

/-- The members of the object under a key, or none. -/
def fieldsAt (value : Json) (key : String) : Fields :=
  ((value.field? key).bind asObject?).getD []

/-- The texts among the items under a key. -/
def textsAt (value : Json) (key : String) : List String :=
  (value.itemsAt key).filterMap asString?

/-- The form of a value, or null for none. -/
def ofOption {α : Type} (form : α → Json) : Option α → Json
  | some value => form value
  | none => .null

/-- A text, or null for none. -/
def ofText? : Option String → Json := ofOption Json.string

/-- A number that is not negative. -/
def ofNat (value : Nat) : Json := .integer value

end Telemetry.Json

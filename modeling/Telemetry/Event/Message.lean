import Telemetry.Event
import Telemetry.Text.Blank

/-!
Contract: events from messages of an external bridge.

Owns:
- the checks on a message, in their order, with one cause of refusal each;
- the wording of the causes.

Does not own: what a tracker does with a refused message.

A message is an object with a schema that is not blank and an object as data;
entities and a true timestamp are optional.
-/

namespace Telemetry

/-- Why a message is refused. -/
inductive MessageError where
  | notAnObject
  | missingSchema
  | invalidData
  | invalidEntity (index : Nat)
  | invalidTimestamp
deriving DecidableEq, Repr

namespace MessageError

/-- The wording of a cause. -/
def message : MessageError → String
  | .notAnObject => "bridged event must be a JSON object"
  | .missingSchema => "bridged event is missing a non-empty schema"
  | .invalidData => "bridged event data must be a JSON object"
  | .invalidEntity index =>
    "bridged entity at index " ++ Decimal.integerText index ++ " is malformed"
  | .invalidTimestamp =>
    "bridged true timestamp must be an integer number of milliseconds"

end MessageError

namespace Event

/-- A schema that is a text with a character that is not blank. -/
def messageSchema? (value : Json) : Option String :=
  ((value.field? "schema").bind Json.asString?).filter Text.hasContent

/-- The entity of one item: an object with such a schema and an object as data. -/
def messageEntity? (item : Json) : Option Entity := do
  let schema ← messageSchema? item
  let data ← (item.field? "data").bind Json.asObject?
  some ⟨schema, data⟩

/-- The entities of items, or the index of the first malformed one. -/
def messageEntityList : Nat → List Json → Except MessageError (List Entity)
  | _, [] => .ok []
  | index, item :: rest =>
    match messageEntity? item with
    | none => .error (.invalidEntity index)
    | some entity => (messageEntityList (index + 1) rest).map (entity :: ·)

/-- The entities of a message, which may be absent but not null. -/
def messageEntities (value : Json) : Except MessageError (List Entity) :=
  match value.field? "entities" with
  | none => .ok []
  | some (.array items) => messageEntityList 0 items
  | some _ => .error (.invalidEntity 0)

/-- The true timestamp of a message, which may be absent or null. -/
def messageTimestamp (value : Json) : Except MessageError (Option Int) :=
  match value.field? "true_timestamp" with
  | none | some .null => .ok none
  | some stamp =>
    match stamp.asSigned? with
    | some instant => .ok (some instant)
    | none => .error .invalidTimestamp

/-- The event of a message, or the first check that it fails. -/
def ofMessage (message : Json) : Except MessageError Event :=
  match message with
  | .object _ =>
    match messageSchema? message with
    | none => .error .missingSchema
    | some schema =>
      match (message.field? "data").bind Json.asObject? with
      | none => .error .invalidData
      | some data =>
        match messageEntities message with
        | .error cause => .error cause
        | .ok entities =>
          match messageTimestamp message with
          | .error cause => .error cause
          | .ok trueTimestamp =>
            .ok {
              kind := .external ⟨schema, data⟩
              trueTimestamp := trueTimestamp
              entities := entities }
  | _ => .error .notAnObject

end Event

end Telemetry

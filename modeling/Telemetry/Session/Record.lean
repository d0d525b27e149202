import Telemetry.Json
import Telemetry.Settings
import Telemetry.Uuid

/-!
Contract: the durable record of a session.

Owns:
- the fields of a record, and a fresh one;
- its JSON form, and reading a record from an object or from a list of its
  fields in order;
- the record that takes the place of one in the legacy layout.

Does not own: when a record is written.
-/

namespace Telemetry

/-- What is kept of a session between launches. -/
structure SessionRecord where
  userId : String
  sessionId : String := ""
  previousSessionId : Option String := none
  sessionIndex : Nat := 0
  firstEventId : Option String := none
  firstEventTimestamp : Option Int := none
  eventIndex : Nat := 0
  foregroundIndex : Nat := 0
  backgroundIndex : Nat := 0
deriving DecidableEq, Repr

namespace SessionRecord

def settingsName : String := "session"

def settingsKey (scope : String) : SettingsKey := ⟨scope, settingsName⟩

/-- A record of a user without a session. -/
def fresh (user : Uuid) : SessionRecord := { userId := user.text }

/-- The names of the fields, in the order in which a list holds them. -/
def fieldNames : List String :=
  ["user_id", "session_id", "previous_session_id", "session_index", "first_event_id",
    "first_event_timestamp_ms", "event_index", "foreground_index", "background_index"]

/-- A text, or null for none. -/
def optionalText : Option String → Json
  | some text => .string text
  | none => .null

/-- A whole number, or null for none. -/
def optionalInteger : Option Int → Json
  | some value => .integer value
  | none => .null

def toJson (record : SessionRecord) : Json :=
  .object [
    ("background_index", .integer record.backgroundIndex),
    ("event_index", .integer record.eventIndex),
    ("first_event_id", optionalText record.firstEventId),
    ("first_event_timestamp_ms", optionalInteger record.firstEventTimestamp),
    ("foreground_index", .integer record.foregroundIndex),
    ("previous_session_id", optionalText record.previousSessionId),
    ("session_id", .string record.sessionId),
    ("session_index", .integer record.sessionIndex),
    ("user_id", .string record.userId)]

/-- A whole number that a counter can hold. -/
def readCount? (value : Json) : Option Nat :=
  value.asUnsigned?.filter fun count => decide (count ≤ 0xFFFFFFFF)

/-- The value of a field that may be absent. -/
def readOr? {α : Type} (absent : α) (read : Json → Option α) : Option Json → Option α
  | none => some absent
  | some value => read value

/-- The value of a field that may be absent or null. -/
def readOption? {α : Type} (read : Json → Option α) : Option Json → Option (Option α)
  | none | some .null => some none
  | some value => (read value).map some

/-- The record of named fields. Only the user must be there; other names are
passed over. -/
def ofFields? (fields : List (String × Json)) : Option SessionRecord := do
  let field := Entries.get? fields
  let userId ← (field "user_id").bind Json.asString?
  let sessionId ← readOr? "" Json.asString? (field "session_id")
  let previousSessionId ← readOption? Json.asString? (field "previous_session_id")
  let sessionIndex ← readOr? 0 readCount? (field "session_index")
  let firstEventId ← readOption? Json.asString? (field "first_event_id")
  let firstEventTimestamp ← readOption? Json.asSigned? (field "first_event_timestamp_ms")
  let eventIndex ← readOr? 0 readCount? (field "event_index")
  let foregroundIndex ← readOr? 0 readCount? (field "foreground_index")
  let backgroundIndex ← readOr? 0 readCount? (field "background_index")
  some {
    userId := userId
    sessionId := sessionId
    previousSessionId := previousSessionId
    sessionIndex := sessionIndex
    firstEventId := firstEventId
    firstEventTimestamp := firstEventTimestamp
    eventIndex := eventIndex
    foregroundIndex := foregroundIndex
    backgroundIndex := backgroundIndex }

/-- The record of an object, or of a list of its fields in order. Fields may be
missing at the end of a list, but none may follow. -/
def ofJson? : Json → Option SessionRecord
  | .object fields => ofFields? fields
  | .array items =>
    if items.length ≤ fieldNames.length then
      ofFields? (fieldNames.zip items)
    else
      none
  | _ => none

/-- The record that takes the place of one in the legacy layout, which must hold
a session. `user` is used if it holds no user, and `firstEvent` as the first
event. An index that no counter can hold counts as zero. -/
def ofLegacy? (user firstEvent : Uuid) (value : Json) : Option SessionRecord := do
  let sessionId ← (value.field? "sessionId").bind Json.asString?
  some {
    userId := ((value.field? "userId").bind Json.asString?).getD user.text
    sessionId := sessionId
    previousSessionId := some sessionId
    sessionIndex := ((value.field? "sessionIndex").bind readCount?).getD 0
    firstEventId := some firstEvent.text }

end SessionRecord

end Telemetry

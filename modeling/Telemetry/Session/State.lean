import Telemetry.Entity
import Telemetry.Schemas
import Telemetry.Session.Record
import Telemetry.Time.Calendar

/-!
Contract: what an event shows of its session.

Owns: the view of a record after an event, and the entity made of it, with the
user shown or hidden.

Does not own: the record's changes.
-/

namespace Telemetry

/-- A session as it was right after an event. -/
structure SessionState where
  userId : String
  sessionId : String
  previousSessionId : Option String
  sessionIndex : Nat
  storageMechanism : String
  firstEventId : Option String
  firstEventTimestamp : Option Int
  eventIndex : Nat
deriving DecidableEq, Repr

namespace SessionState

def ofRecord (record : SessionRecord) (storageMechanism : String) : SessionState where
  userId := record.userId
  sessionId := record.sessionId
  previousSessionId := record.previousSessionId
  sessionIndex := record.sessionIndex
  storageMechanism := storageMechanism
  firstEventId := record.firstEventId
  firstEventTimestamp := record.firstEventTimestamp
  eventIndex := record.eventIndex

/-- The user that is shown in place of a hidden one. -/
def anonymousUserId : String := "00000000-0000-0000-0000-000000000000"

/-- The entity. With `anonymise` it names neither the user nor the session
before. The first event's instant is left out if it has no text. -/
def entity (state : SessionState) (anonymise : Bool) : Entity where
  schema := Schemas.clientSession
  data :=
    let optional (key : String) (value : Option String) : List (String × Json) :=
      (value.map fun text => (key, Json.string text)).toList
    Entries.ofPairs
      ([("userId", .string (if anonymise then anonymousUserId else state.userId)),
        ("sessionId", .string state.sessionId),
        ("sessionIndex", .integer state.sessionIndex)] ++
      optional "previousSessionId" (if anonymise then none else state.previousSessionId) ++
      [("storageMechanism", .string state.storageMechanism)] ++
      optional "firstEventId" state.firstEventId ++
      optional "firstEventTimestamp" (state.firstEventTimestamp.bind Time.instantText?) ++
      [("eventIndex", .integer state.eventIndex)])

end SessionState

end Telemetry

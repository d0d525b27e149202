import Telemetry.Resources
import Telemetry.Session.State
import Telemetry.Time.Millis

/-!
Contract: a session and how events advance it.

Owns:
- loading: a legacy record is moved, and the stored record is taken up or a
  fresh one is stored;
- the decision whether an event starts a new session;
- the counters, the stored record and the signal of a new session.

Does not own: which events there are. A record that cannot be stored is kept in
memory.
-/

namespace Telemetry

/-- How long a session may be idle, in milliseconds, while the application is
visible and while it is not, and the name of the storage. -/
structure SessionConfig where
  foregroundTimeout : Nat := 1800000
  backgroundTimeout : Nat := 1800000
  storageMechanism : String := "SQLITE"
deriving DecidableEq, Repr

/-- The application becomes visible or stops being so. -/
inductive LifecycleSignal where
  | foreground
  | background
deriving DecidableEq, Repr

namespace LifecycleSignal

/-- The signal that an event with a schema gives. -/
def ofSchema? (schema : Option String) : Option LifecycleSignal :=
  if schema = some Schemas.applicationForeground then
    some .foreground
  else if schema = some Schemas.applicationBackground then
    some .background
  else
    none

end LifecycleSignal

/-- A session: its scope and set-up, its record, the instant of the latest
event since it was loaded, and what is asked of the next event. -/
structure Session where
  scope : String
  config : SessionConfig
  record : SessionRecord
  lastAccess : Option Int := none
  inBackground : Bool := false
  forceNew : Bool := false
  anonymise : Bool := false
deriving DecidableEq, Repr

namespace Session

/-- Stores the record. -/
def persist (session : Session) (resources : Resources) : Resources :=
  (resources.write (SessionRecord.settingsKey session.scope) session.record.toJson).2

/-- The stored record, if it can be read and is one. -/
def storedRecord? (scope : String) (resources : Resources) :
    Option SessionRecord × Resources :=
  match resources.read (SessionRecord.settingsKey scope) with
  | (.ok (some value), resources) => (SessionRecord.ofJson? value, resources)
  | (_, resources) => (none, resources)

/-- Loads the session of a scope. Identifiers are drawn for the user and the
first event of a legacy record, and for a fresh user. -/
def load (scope : String) (config : SessionConfig) (resources : Resources) :
    Session × Resources :=
  let (legacyUser, resources) := resources.draw
  let (legacyEvent, resources) := resources.draw
  let (freshUser, resources) := resources.draw
  let (_, resources) := resources.migrate (SessionRecord.settingsKey scope) fun value =>
    (SessionRecord.ofLegacy? legacyUser legacyEvent value).map SessionRecord.toJson
  match storedRecord? scope resources with
  | (some record, resources) =>
    ({ scope := scope, config := config, record := record }, resources)
  | (none, resources) =>
    let session : Session :=
      { scope := scope, config := config, record := .fresh freshUser }
    (session, session.persist resources)

/-- The idle time after which an event starts a new session. -/
def timeout (session : Session) : Int :=
  Time.spanMillis
    (if session.inBackground then
      session.config.backgroundTimeout
    else
      session.config.foregroundTimeout)

/-- An event at `instant` comes too late for the running session. -/
def isExpired (session : Session) (instant : Int) : Bool :=
  match session.lastAccess with
  | none => true
  | some last => decide (session.timeout ≤ Time.elapsed instant last)

/-- An event at `instant` starts a new session. -/
def startsAnew (session : Session) (instant : Int) : Bool :=
  session.forceNew || session.isExpired instant

/-- The record of a new session that an event starts. -/
def renewed (record : SessionRecord) (sessionId event : Uuid) (instant : Int) :
    SessionRecord :=
  { record with
    sessionId := sessionId.text
    previousSessionId := if record.sessionId.isEmpty then none else some record.sessionId
    sessionIndex := Time.nextCount record.sessionIndex
    firstEventId := some event.text
    firstEventTimestamp := some instant
    eventIndex := 1 }

def counted (record : SessionRecord) : Option LifecycleSignal → SessionRecord
  | none => record
  | some .foreground => { record with foregroundIndex := Time.nextCount record.foregroundIndex }
  | some .background => { record with backgroundIndex := Time.nextCount record.backgroundIndex }

def backgroundAfter (inBackground : Bool) : Option LifecycleSignal → Bool
  | none => inBackground
  | some .foreground => false
  | some .background => true

/-- The session after an event. `sessionId` is the identifier of a session that
the event starts. -/
def advanced
    (session : Session)
    (sessionId event : Uuid)
    (instant : Int)
    (signal : Option LifecycleSignal) :
    Session :=
  let anew := session.startsAnew instant
  let record := session.record
  let record :=
    if anew then
      renewed record sessionId event instant
    else
      { record with eventIndex := Time.nextCount record.eventIndex }
  { session with
    record := counted record signal
    lastAccess := some instant
    inBackground := backgroundAfter session.inBackground signal
    forceNew := session.forceNew && !anew }

/-- The signal that a record's session was started. -/
def started (record : SessionRecord) : Notification :=
  .sessionStarted record.sessionId record.sessionIndex record.previousSessionId

/-- What events show of the session. -/
def state (session : Session) : SessionState :=
  .ofRecord session.record session.config.storageMechanism

/-- Advances the session by an event, stores the record, and tells of a new
session. -/
def update
    (session : Session)
    (resources : Resources)
    (event : Uuid)
    (instant : Int)
    (signal : Option LifecycleSignal) :
    Session × Resources :=
  let (sessionId, resources) := resources.draw
  let next := session.advanced sessionId event instant signal
  let resources := next.persist resources
  if session.startsAnew instant then
    (next, resources.publish (started next.record))
  else
    (next, resources)

def startNew (session : Session) : Session := { session with forceNew := true }

/-- Shows or hides the user in the entities of the session. -/
def setAnonymise (session : Session) (on : Bool) : Session := { session with anonymise := on }

end Session

end Telemetry

import Telemetry.Proofs.Session.Codec
import Telemetry.Proofs.Settings.Keeping

/-!
Contract: what the launches of a session and its events leave in the settings store.

Owns:
- when a backend keeps a record of a scope;
- the lifetimes of a process: a session is loaded, then a history goes on;
- a load: the store after the move of a legacy record, and whether a record is taken up from it
  or a fresh one is made;
- an event: the record that is written.

Does not own: what follows over many lifetimes.
-/

namespace Telemetry

/-! ### Records that are kept -/

namespace SettingsBackend

/-- The record of a scope can be read. -/
def Keeps (backend : SettingsBackend) (scope : String) (record : SessionRecord) : Prop :=
  ∃ value, backend.get (SessionRecord.settingsKey scope) = .ok (some value) ∧
    SessionRecord.ofJson? value = some record

variable {backend after : SettingsBackend} {scope : String} {record : SessionRecord}

theorem Keeps.inRange (keeps : backend.Keeps scope record) : record.InRange := by
  obtain ⟨_, _, read⟩ := keeps
  exact SessionRecord.inRange_of_ofJson? read

theorem Keeps.works (keeps : backend.Keeps scope record) : backend.Works := by
  obtain ⟨_, found, _⟩ := keeps
  exact works_of_get found

theorem keeps_of_updates (inRange : record.InRange)
    (updates : backend.Updates (SessionRecord.settingsKey scope) (some record.toJson) after) :
    after.Keeps scope record :=
  ⟨_, updates.get_self, SessionRecord.ofJson?_toJson inRange⟩

end SettingsBackend

theorem settingsKey_ne_legacy {scope : String} (named : scope ≠ legacyScope) :
    SessionRecord.settingsKey scope ≠ .legacy SessionRecord.settingsName := by
  intro same
  exact named (congrArg SettingsKey.scope same)

/-! ### Lifetimes -/

/-- A process: the set-up of the session that it loads, and what is done with it. -/
structure Lifetime where
  config : SessionConfig
  history : SessionHistory
deriving DecidableEq, Repr

def Lifetime.run (life : Lifetime) (scope : String) (resources : Resources) :
    Session × Resources :=
  let loaded := Session.load scope life.config resources
  loaded.1.after loaded.2 life.history

/-- What lifetimes leave, oldest first. -/
def Resources.afterLives (resources : Resources) (scope : String) (lives : List Lifetime) :
    Resources :=
  lives.foldl (fun current life => (life.run scope current).2) resources

namespace Session

variable {scope : String} {config : SessionConfig} {resources : Resources}
  {record : SessionRecord}

/-! ### Loading -/

/-- The record that a legacy record turns into when a session is loaded. -/
def legacyRecord? (uuids : UuidSource) (value : Json) : Option SessionRecord :=
  SessionRecord.ofLegacy? (uuids.stream uuids.drawn) (uuids.stream (uuids.drawn + 1)) value

/-- That record, if the legacy record names a session: its user and its index are taken over if
they are there, and its session is the session before as well. -/
def legacyRecord (uuids : UuidSource) (value : Json) (sessionId : String) : SessionRecord where
  userId := ((value.field? "userId").bind Json.asString?).getD (uuids.stream uuids.drawn).text
  sessionId := sessionId
  previousSessionId := some sessionId
  sessionIndex := ((value.field? "sessionIndex").bind SessionRecord.readCount?).getD 0
  firstEventId := some (uuids.stream (uuids.drawn + 1)).text

theorem legacyRecord?_of_session {uuids : UuidSource} {value : Json} {sessionId : String}
    (names : value.field? "sessionId" = some (.string sessionId)) :
    legacyRecord? uuids value = some (legacyRecord uuids value sessionId) := by
  simp only [legacyRecord?, SessionRecord.ofLegacy?, names, Option.bind_some, Json.asString?,
    Option.bind_eq_bind, legacyRecord]

/-- The user of a fresh record that a load makes. -/
def freshUser (uuids : UuidSource) : Uuid := uuids.stream (uuids.drawn + 2)

/-- The store when a load has tried to move a legacy record. -/
def migrated (scope : String) (resources : Resources) : SettingsStore :=
  (resources.settings.migrate (SessionRecord.settingsKey scope) fun value =>
    (legacyRecord? resources.uuids value).map SessionRecord.toJson).2

/-- What a load has when it has tried to read the record. -/
def opened (scope : String) (resources : Resources) : Resources :=
  { resources with
    settings := (migrated scope resources).called
    uuids := resources.uuids.skip 3 }

theorem migrated_frame (scope : String) (resources : Resources) :
    (migrated scope resources).calls = resources.settings.calls + 1 ∧
      (migrated scope resources).refuses = resources.settings.refuses :=
  SettingsStore.migrate_frame _

theorem refuses_migrated (scope : String) (resources : Resources) (call : SettingsCall) :
    (migrated scope resources).refuses call (migrated scope resources).calls =
      resources.settings.refuses call (resources.settings.calls + 1) := by
  rw [(migrated_frame scope resources).1, (migrated_frame scope resources).2]

/-- A load goes by what it reads after the move. -/
theorem load_eq (scope : String) (config : SessionConfig) (resources : Resources) :
    load scope config resources =
      match storedRecord? scope
        { resources with
          settings := migrated scope resources
          uuids := resources.uuids.skip 3 } with
      | (some record, after) => ({ scope := scope, config := config, record := record }, after)
      | (none, after) =>
        let session : Session :=
          { scope := scope, config := config, record := .fresh (freshUser resources.uuids) }
        (session, session.persist after) :=
  rfl

/-- A record that can be read is taken up. -/
theorem load_of_keeps (config : SessionConfig)
    (keeps : (migrated scope resources).backend.Keeps scope record)
    (reads : resources.settings.refuses .get (resources.settings.calls + 1) = false) :
    load scope config resources =
      ({ scope := scope, config := config, record := record }, opened scope resources) := by
  obtain ⟨value, found, read⟩ := keeps
  rw [load_eq]
  simp only [storedRecord?, Resources.read, SettingsStore.get, refuses_migrated, reads,
    Bool.false_eq_true, if_false, found, read, opened]

/-- A fresh record is made and written if reading is refused. -/
theorem load_of_outage (config : SessionConfig)
    (refused : resources.settings.refuses .get (resources.settings.calls + 1) = true) :
    let session : Session :=
      { scope := scope, config := config, record := .fresh (freshUser resources.uuids) }
    load scope config resources = (session, session.persist (opened scope resources)) := by
  rw [load_eq]
  simp only [storedRecord?, Resources.read, SettingsStore.get, refuses_migrated, refused, if_true,
    opened]

/-- A fresh record is made and written if there is none, whether or not reading is refused. -/
theorem load_of_absent (config : SessionConfig)
    (absent : (migrated scope resources).backend.get (SessionRecord.settingsKey scope) =
      .ok none) :
    let session : Session :=
      { scope := scope, config := config, record := .fresh (freshUser resources.uuids) }
    load scope config resources = (session, session.persist (opened scope resources)) := by
  by_cases refused :
      resources.settings.refuses .get (resources.settings.calls + 1) = true
  · exact load_of_outage config refused
  · rw [load_eq]
    simp only [storedRecord?, Resources.read, SettingsStore.get, refuses_migrated, refused,
      Bool.false_eq_true, if_false, absent, opened]

/-! ### The move of a legacy record -/

theorem migrated_of_outage
    (refused : resources.settings.refuses .migrate resources.settings.calls = true) :
    (migrated scope resources).backend = resources.settings.backend := by
  rw [migrated, SettingsStore.migrate_of_outage refused]
  rfl

/-- A move that would do nothing does nothing when it is refused either. -/
theorem migrated_of_unmoved
    (unmoved : resources.settings.backend.migrate (SessionRecord.settingsKey scope)
      (fun value => (legacyRecord? resources.uuids value).map SessionRecord.toJson) =
        .ok (false, resources.settings.backend)) :
    (migrated scope resources).backend = resources.settings.backend := by
  by_cases refused : resources.settings.refuses .migrate resources.settings.calls = true
  · exact migrated_of_outage refused
  · rw [migrated, SettingsStore.migrate_of_answer (Bool.eq_false_iff.mpr refused) unmoved]

/-- Whatever comes of the move, a record of the scope stays. -/
theorem migrated_of_keeps (keeps : resources.settings.backend.Keeps scope record) :
    (migrated scope resources).backend = resources.settings.backend := by
  obtain ⟨value, found, _⟩ := keeps
  exact migrated_of_unmoved (SettingsBackend.migrate_of_present found)

/-- Without a legacy record nothing is moved. -/
theorem migrated_of_none
    (absent : resources.settings.backend.get (SessionRecord.settingsKey scope) = .ok none)
    (noLegacy : resources.settings.backend.get (.legacy SessionRecord.settingsName) = .ok none) :
    (migrated scope resources).backend = resources.settings.backend :=
  migrated_of_unmoved (SettingsBackend.migrate_of_refused absent noLegacy rfl)

/-- A legacy record is moved: the scope has the new record, and the legacy record is gone. -/
theorem migrated_of_legacy (named : scope ≠ legacyScope) {value : Json}
    (accepts : resources.settings.refuses .migrate resources.settings.calls = false)
    (absent : resources.settings.backend.get (SessionRecord.settingsKey scope) = .ok none)
    (legacy : resources.settings.backend.get (.legacy SessionRecord.settingsName) =
      .ok (some value))
    (moved : legacyRecord? resources.uuids value = some record) :
    (migrated scope resources).backend.Keeps scope record ∧
      (migrated scope resources).backend.get (.legacy SessionRecord.settingsName) = .ok none := by
  have inRange : record.InRange := SessionRecord.inRange_of_ofLegacy? moved
  obtain ⟨written, after, answers, puts, removes⟩ :=
    SettingsBackend.migrate_moves (SessionRecord.settingsKey scope)
      (fun value => (legacyRecord? resources.uuids value).map SessionRecord.toJson)
      absent legacy (by rw [moved, Option.map_some])
      (Json.parse?_text (SessionRecord.legible_toJson inRange))
  have backend : (migrated scope resources).backend = after := by
    rw [migrated, SettingsStore.migrate_of_answer accepts answers]
  rw [backend]
  refine ⟨⟨record.toJson, ?_, SessionRecord.ofJson?_toJson inRange⟩, removes.get_self⟩
  rw [removes.get_of_ne (settingsKey_ne_legacy named).symm]
  exact puts.get_self

/-! ### Writing -/

/-- A refused write leaves the records as they are. -/
theorem persist_of_refused {session : Session}
    (refused : resources.settings.refuses .set resources.settings.calls = true) :
    session.persist resources = { resources with settings := resources.settings.called } := by
  simp only [persist, Resources.write, SettingsStore.set_of_refused refused]

/-- An accepted write puts the record under its scope, and changes no other record. -/
theorem persist_of_accepted {session : Session} (inRange : session.record.InRange)
    (accepted : resources.settings.refuses .set resources.settings.calls = false)
    (works : resources.settings.backend.Works) :
    ∃ backend, session.persist resources =
        { resources with settings := { resources.settings.called with backend := backend } } ∧
      resources.settings.backend.Updates (SessionRecord.settingsKey session.scope)
        (some session.record.toJson) backend := by
  obtain ⟨backend, written, updates⟩ := SettingsStore.set_of_accepted
    (SessionRecord.settingsKey session.scope) accepted works
    (Json.parse?_text (SessionRecord.legible_toJson inRange))
  refine ⟨backend, ?_, updates⟩
  simp only [persist, Resources.write, written]

/-- An event draws one identifier and writes the record that it makes. Its signal is for the
bus. -/
theorem update_settings (session : Session) (resources : Resources) (event : Uuid)
    (instant : Int) (signal : Option LifecycleSignal) :
    let next := session.advanced resources.draw.1 event instant signal
    let after := (session.update resources event instant signal).2
    after.settings = (next.persist resources.draw.2).settings ∧
      after.uuids.stream = resources.uuids.stream := by
  unfold update
  simp only
  split <;> exact ⟨rfl, rfl⟩

end Session

end Telemetry

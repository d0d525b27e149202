import Telemetry.Proofs.Session.Launch
import Telemetry.Proofs.Session.Partition
import Telemetry.Proofs.Settings.Likeness

/-!
Contract: sessions that differ in the user and in what came before the current session.

Owns:
- sessions that hide the user, are in the same position and count sessions alike; once an event
  has advanced them they differ only in the user and the session before;
- that loading, events and requests for a new session keep them so;
- that their events show the same entity.

Does not own: trackers, and what a session's record is stored for.
-/

namespace Telemetry

/-- Resources that differ in what is stored of sessions, and in what was published. -/
structure Resources.Alike (resources mirror : Resources) : Prop where
  settings : resources.settings.AlikeBut SessionRecord.settingsName mirror.settings
  uuids : mirror.uuids = resources.uuids

namespace SessionState

/-- The state without the user and the session before. -/
def concealed (state : SessionState) : SessionState :=
  { state with userId := "", previousSessionId := none }

/-- An entity that hides the user is one of what is not concealed. -/
theorem entity_of_concealed {state mirror : SessionState}
    (same : mirror.concealed = state.concealed) : mirror.entity true = state.entity true := by
  calc mirror.entity true = mirror.concealed.entity true := rfl
    _ = state.concealed.entity true := by rw [same]
    _ = state.entity true := rfl

end SessionState

namespace Session

/-- Both sessions hide the user, and will do the same about the next event. If an event has
advanced them, their states are the same but for what is concealed. -/
structure Alike (session mirror : Session) : Prop where
  scope : mirror.scope = session.scope
  config : mirror.config = session.config
  lastAccess : mirror.lastAccess = session.lastAccess
  inBackground : mirror.inBackground = session.inBackground
  forceNew : mirror.forceNew = session.forceNew
  hides : session.anonymise = true ∧ mirror.anonymise = true
  sessionIndex : mirror.record.sessionIndex = session.record.sessionIndex
  states : session.lastAccess ≠ none → mirror.state.concealed = session.state.concealed

variable {session mirror : Session} {resources parallel : Resources}

namespace Alike

theorem startsAnew (alike : session.Alike mirror) (instant : Int) :
    mirror.startsAnew instant = session.startsAnew instant := by
  have timeout : mirror.timeout = session.timeout := by
    rw [Session.timeout, Session.timeout, alike.inBackground, alike.config]
  rw [Session.startsAnew, Session.startsAnew, isExpired, isExpired, alike.forceNew,
    alike.lastAccess, timeout]

/-- Before its first event a session has no state to show, as that event starts a new one. -/
theorem concealed_advanced (alike : session.Alike mirror) (sessionId event : Uuid)
    (instant : Int) (signal : Option LifecycleSignal) :
    (mirror.advanced sessionId event instant signal).state.concealed =
      (session.advanced sessionId event instant signal).state.concealed := by
  simp only [advanced, alike.startsAnew, Session.state, ofRecord_counted, alike.config]
  cases anew : session.startsAnew instant with
  | true =>
      simp only [if_true, SessionState.concealed, SessionState.ofRecord, renewed,
        alike.sessionIndex]
  | false =>
      have advancedBefore : session.lastAccess ≠ none := by
        intro isFirst
        simp [Session.startsAnew, isExpired, isFirst] at anew
      have same := alike.states advancedBefore
      simp only [SessionState.concealed, Session.state, SessionState.ofRecord,
        SessionState.mk.injEq, true_and] at same ⊢
      obtain ⟨sessionId, index, _, firstEvent, firstInstant, count⟩ := same
      simp [sessionId, index, firstEvent, firstInstant, count]

theorem sessionIndex_advanced (alike : session.Alike mirror) (sessionId event : Uuid)
    (instant : Int) (signal : Option LifecycleSignal) :
    (mirror.advanced sessionId event instant signal).record.sessionIndex =
      (session.advanced sessionId event instant signal).record.sessionIndex :=
  congrArg SessionState.sessionIndex (alike.concealed_advanced sessionId event instant signal)

theorem advanced (alike : session.Alike mirror) (sessionId event : Uuid) (instant : Int)
    (signal : Option LifecycleSignal) :
    (session.advanced sessionId event instant signal).Alike
      (mirror.advanced sessionId event instant signal) where
  scope := alike.scope
  config := alike.config
  lastAccess := rfl
  inBackground := by simp only [Session.advanced, alike.inBackground]
  forceNew := by simp only [Session.advanced, alike.forceNew, alike.startsAnew]
  hides := alike.hides
  sessionIndex := alike.sessionIndex_advanced sessionId event instant signal
  states := fun _ => alike.concealed_advanced sessionId event instant signal

theorem startNew (alike : session.Alike mirror) : session.startNew.Alike mirror.startNew :=
  { alike with forceNew := rfl }

theorem setAnonymise (alike : session.Alike mirror) :
    (session.setAnonymise true).Alike (mirror.setAnonymise true) :=
  { alike with hides := ⟨rfl, rfl⟩ }

end Alike

end Session

/-! ### Resources -/

namespace Resources.Alike

variable {resources parallel : Resources} {session mirror : Session}

theorem draw (alike : resources.Alike parallel) :
    parallel.draw.1 = resources.draw.1 ∧ resources.draw.2.Alike parallel.draw.2 := by
  rw [Resources.draw, Resources.draw, alike.uuids]
  exact ⟨rfl, alike.settings, rfl⟩

/-- Whatever is stored of sessions, the resources are alike. -/
theorem persist (alike : resources.Alike parallel) (scope : mirror.scope = session.scope) :
    (session.persist resources).Alike (mirror.persist parallel) := by
  have written := alike.settings.set (SessionRecord.settingsKey session.scope)
    session.record.toJson mirror.record.toJson fun isOther => absurd rfl isOther
  simp only [Session.persist, Resources.write, scope]
  exact ⟨written.2, alike.uuids⟩

theorem update (alike : resources.Alike parallel) (sessions : session.Alike mirror)
    (event : Uuid) (instant : Int) (signal : Option LifecycleSignal) :
    (session.update resources event instant signal).1.Alike
        (mirror.update parallel event instant signal).1 ∧
      (session.update resources event instant signal).2.Alike
        (mirror.update parallel event instant signal).2 := by
  obtain ⟨same, drawn⟩ := alike.draw
  have next := sessions.advanced resources.draw.1 event instant signal
  have stored := drawn.persist next.scope
  simp only [Session.update, same, sessions.startsAnew]
  split
  · exact ⟨next, stored.settings, stored.uuids⟩
  · exact ⟨next, stored⟩

end Resources.Alike

/-! ### Loading -/

namespace Session

variable {scope : String} {resources parallel : Resources} {record mirrored : SessionRecord}

/-- A session is loaded from a stored record, or is fresh if reading is refused. -/
theorem load_alike (config : SessionConfig) (alike : resources.Alike parallel)
    (keeps : resources.settings.backend.Keeps scope record)
    (mirrorKeeps : parallel.settings.backend.Keeps scope mirrored)
    (sessionIndex : mirrored.sessionIndex = record.sessionIndex) :
    ((load scope config resources).1.setAnonymise true).Alike
        ((load scope config parallel).1.setAnonymise true) ∧
      (load scope config resources).2.Alike (load scope config parallel).2 := by
  have opens : (opened scope resources).Alike (opened scope parallel) := by
    obtain ⟨value, found, _⟩ := keeps
    obtain ⟨held, mirrorFound, _⟩ := mirrorKeeps
    have moved : (migrated scope resources).AlikeBut _ (migrated scope parallel) :=
      alike.settings.migrate_of_present _ _ found mirrorFound
    exact ⟨moved.called, by simp only [opened, alike.uuids]⟩
  have refuses : parallel.settings.refuses .get (parallel.settings.calls + 1) =
      resources.settings.refuses .get (resources.settings.calls + 1) := by
    rw [alike.settings.refuses, alike.settings.calls]
  cases refused : resources.settings.refuses .get (resources.settings.calls + 1) with
  | true =>
      rw [load_of_outage config refused, load_of_outage config (refuses.trans refused),
        alike.uuids]
      exact ⟨⟨rfl, rfl, rfl, rfl, rfl, ⟨rfl, rfl⟩, rfl, fun _ => rfl⟩, opens.persist rfl⟩
  | false =>
      rw [load_of_keeps config ((migrated_of_keeps keeps).symm ▸ keeps) refused,
        load_of_keeps config ((migrated_of_keeps mirrorKeeps).symm ▸ mirrorKeeps)
          (refuses.trans refused)]
      exact ⟨⟨rfl, rfl, rfl, rfl, rfl, ⟨rfl, rfl⟩, sessionIndex, fun first => absurd rfl first⟩,
        opens⟩

end Session

end Telemetry

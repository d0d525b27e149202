import Telemetry.Proofs.Session.Launch

/-!
Contract: with a store whose calls succeed, each launch goes on where the one before it ended.

Owns:
- what a store holds for a scope before the first launch, and the record of that launch;
- sessions whose record in memory is the stored one, and that this is kept by all that is done
  with them;
- the launches of a run: the record that each restores, its user, the session that its first
  event starts, and the legacy record that the first of them moves.

Does not own: stores that refuse calls.
-/

namespace Telemetry

/-! ### The first launch -/

/-- What a store holds for a scope: nothing, a record, or a record in the legacy layout with
the session that it names. -/
inductive SessionOrigin where
  | nothing
  | stored (record : SessionRecord)
  | legacy (value : Json) (sessionId : String)
deriving DecidableEq, Repr

/-- The record of the first launch. -/
def SessionOrigin.first (uuids : UuidSource) : SessionOrigin → SessionRecord
  | .nothing => .fresh (Session.freshUser uuids)
  | .stored record => record
  | .legacy value sessionId => Session.legacyRecord uuids value sessionId

def SettingsBackend.HasOrigin (backend : SettingsBackend) (scope : String) :
    SessionOrigin → Prop
  | .nothing =>
    backend.get (SessionRecord.settingsKey scope) = .ok none ∧
      backend.get (.legacy SessionRecord.settingsName) = .ok none
  | .stored record => backend.Keeps scope record
  | .legacy value sessionId =>
    backend.get (SessionRecord.settingsKey scope) = .ok none ∧
      backend.get (.legacy SessionRecord.settingsName) = .ok (some value) ∧
      value.field? "sessionId" = some (.string sessionId)

/-- No call is refused. -/
def SettingsStore.Steady (store : SettingsStore) : Prop :=
  ∀ call number, store.refuses call number = false

namespace Session

/-! ### Sessions and their stored records -/

/-- The stored record of a scope is the one in memory. The user is `userId`, and `legacy` is what
reading the legacy record answers. -/
structure InSync (scope userId : String) (legacy : Except SettingsError (Option Json))
    (session : Session) (resources : Resources) : Prop where
  inScope : session.scope = scope
  ofUser : session.record.userId = userId
  keeps : resources.settings.backend.Keeps scope session.record
  answers : resources.settings.backend.get (.legacy SessionRecord.settingsName) = legacy
  steady : resources.settings.Steady

variable {scope userId : String} {legacy : Except SettingsError (Option Json)}
  {session : Session} {resources : Resources}

/-- Writing a record in range makes it the stored one. -/
theorem inSync_persist (named : scope ≠ legacyScope) (inScope : session.scope = scope)
    (inRange : session.record.InRange) (works : resources.settings.backend.Works)
    (steady : resources.settings.Steady)
    (answers : resources.settings.backend.get (.legacy SessionRecord.settingsName) = legacy) :
    session.InSync scope session.record.userId legacy (session.persist resources) := by
  obtain ⟨backend, written, updates⟩ := persist_of_accepted inRange (steady _ _) works
  rw [inScope] at updates
  rw [written]
  constructor
  case inScope => exact inScope
  case ofUser => rfl
  case keeps => exact SettingsBackend.keeps_of_updates inRange updates
  case answers =>
    rw [← answers]
    exact updates.get_of_ne (settingsKey_ne_legacy named)
  case steady => exact steady

theorem InSync.perform (named : scope ≠ legacyScope)
    (inSync : session.InSync scope userId legacy resources) {move : SessionMove}
    (instants : ∀ instant ∈ move.instant?, SessionRecord.IsInstant instant) :
    (session.perform resources move).1.InSync scope userId legacy
      (session.perform resources move).2 := by
  cases move with
  | update event instant signal =>
      have inRange := inRange_advanced inSync.keeps.inRange (instants instant rfl)
        resources.draw.1 event signal
      let next := session.advanced resources.draw.1 event instant signal
      have written : next.InSync scope next.record.userId legacy
          (next.persist resources.draw.2) :=
        inSync_persist named inSync.inScope inRange inSync.keeps.works inSync.steady
          inSync.answers
      rw [userId_advanced, inSync.ofUser] at written
      rw [Session.perform, update_session]
      obtain ⟨settings, _⟩ := update_settings session resources event instant signal
      constructor
      case inScope => exact inSync.inScope
      case ofUser => exact written.ofUser
      case keeps => rw [settings]; exact written.keeps
      case answers => rw [settings]; exact written.answers
      case steady => rw [settings]; exact written.steady
  | startNew => exact ⟨inSync.inScope, inSync.ofUser, inSync.keeps, inSync.answers, inSync.steady⟩
  | setAnonymise on =>
      exact ⟨inSync.inScope, inSync.ofUser, inSync.keeps, inSync.answers, inSync.steady⟩

/-- By induction on a history, latest move last. -/
theorem InSync.after (named : scope ≠ legacyScope)
    (inSync : session.InSync scope userId legacy resources) {history : SessionHistory}
    (instants : history.InRange) :
    (session.after resources history).1.InSync scope userId legacy
      (session.after resources history).2 := by
  induction history using List.reverseRecOn with
  | nil => exact inSync
  | append_singleton earlier move inductionHypothesis =>
      have earlierInRange : SessionHistory.InRange earlier :=
        fun other member => instants other (List.mem_append_left _ member)
      rw [after_concat]
      exact (inductionHypothesis earlierInRange).perform named (instants move (by simp))

/-! ### Loading -/

theorem steady_opened (steady : resources.settings.Steady) (scope : String) :
    (opened scope resources).settings.Steady := by
  intro call number
  show (migrated scope resources).refuses call number = false
  rw [(migrated_frame scope resources).2]
  exact steady call number

/-- A record of the scope is taken up, and the legacy record stays. -/
theorem load_stored (config : SessionConfig) {record : SessionRecord}
    (keeps : resources.settings.backend.Keeps scope record)
    (answers : resources.settings.backend.get (.legacy SessionRecord.settingsName) = legacy)
    (steady : resources.settings.Steady) :
    (load scope config resources).1.record = record ∧
      (load scope config resources).1.InSync scope record.userId legacy
        (load scope config resources).2 := by
  have backend := migrated_of_keeps keeps
  have stays : (migrated scope resources).backend.Keeps scope record := by
    rw [backend]
    exact keeps
  rw [load_of_keeps config stays (steady _ _)]
  refine ⟨rfl, rfl, rfl, stays, ?_, steady_opened steady scope⟩
  rw [← answers, ← backend]
  rfl

/-- Without any record a fresh one is made. -/
theorem load_nothing (named : scope ≠ legacyScope) (config : SessionConfig)
    (absent : resources.settings.backend.get (SessionRecord.settingsKey scope) = .ok none)
    (noLegacy : resources.settings.backend.get (.legacy SessionRecord.settingsName) = .ok none)
    (steady : resources.settings.Steady) :
    (load scope config resources).1.record = .fresh (freshUser resources.uuids) ∧
      (load scope config resources).1.InSync scope
        (SessionRecord.fresh (freshUser resources.uuids)).userId (.ok none)
        (load scope config resources).2 := by
  have backend := migrated_of_none absent noLegacy
  rw [← backend] at absent noLegacy
  rw [load_of_absent config absent]
  have works : (opened scope resources).settings.backend.Works :=
    SettingsBackend.works_of_get absent
  have inRange : (SessionRecord.fresh (freshUser resources.uuids)).InRange :=
    SessionRecord.inRange_fresh _
  let fresh : Session :=
    { scope := scope, config := config, record := .fresh (freshUser resources.uuids) }
  have written : fresh.InSync scope fresh.record.userId (.ok none)
      (fresh.persist (opened scope resources)) :=
    inSync_persist named rfl inRange works (steady_opened steady scope) noLegacy
  exact ⟨rfl, written⟩

/-- A legacy record is moved, and what it turns into is taken up. -/
theorem load_legacy (named : scope ≠ legacyScope) (config : SessionConfig) {value : Json}
    {record : SessionRecord}
    (absent : resources.settings.backend.get (SessionRecord.settingsKey scope) = .ok none)
    (found : resources.settings.backend.get (.legacy SessionRecord.settingsName) =
      .ok (some value))
    (moved : legacyRecord? resources.uuids value = some record)
    (steady : resources.settings.Steady) :
    (load scope config resources).1.record = record ∧
      (load scope config resources).1.InSync scope record.userId (.ok none)
        (load scope config resources).2 := by
  obtain ⟨keeps, gone⟩ := migrated_of_legacy named (steady _ _) absent found moved
  rw [load_of_keeps config keeps (steady _ _)]
  exact ⟨rfl, rfl, rfl, keeps, gone, steady_opened steady scope⟩

/-- What reading the legacy record answers once a session was loaded. -/
def legacyAfter (backend : SettingsBackend) :
    SessionOrigin → Except SettingsError (Option Json)
  | .stored _ => backend.get (.legacy SessionRecord.settingsName)
  | _ => .ok none

theorem load_first (named : scope ≠ legacyScope) (config : SessionConfig)
    {origin : SessionOrigin} (holds : resources.settings.backend.HasOrigin scope origin)
    (steady : resources.settings.Steady) :
    (load scope config resources).1.record = origin.first resources.uuids ∧
      (load scope config resources).1.InSync scope (origin.first resources.uuids).userId
        (legacyAfter resources.settings.backend origin) (load scope config resources).2 := by
  cases origin with
  | nothing =>
      obtain ⟨absent, noLegacy⟩ := holds
      exact load_nothing named config absent noLegacy steady
  | stored record => exact load_stored config holds rfl steady
  | legacy value sessionId =>
      obtain ⟨absent, found, names⟩ := holds
      exact load_legacy named config absent found (legacyRecord?_of_session names) steady

/-! ### Runs of many launches -/

theorem afterLives_concat (resources : Resources) (scope : String) (lives : List Lifetime)
    (life : Lifetime) :
    resources.afterLives scope (lives ++ [life]) =
      (life.run scope (resources.afterLives scope lives)).2 := by
  rw [Resources.afterLives, List.foldl_append]
  rfl

/-- The record in memory when the latest lifetime ended; that of the first launch if there was
none. -/
def lastRecord (scope : String) (resources : Resources) (origin : SessionOrigin)
    (lives : List Lifetime) : SessionRecord :=
  match lives.getLast? with
  | none => origin.first resources.uuids
  | some life => (life.run scope (resources.afterLives scope lives.dropLast)).1.record

/-- After any number of lifetimes a launch takes up the record of the latest. By induction on
the lifetimes, latest last. -/
theorem load_afterLives (named : scope ≠ legacyScope) {origin : SessionOrigin}
    (holds : resources.settings.backend.HasOrigin scope origin)
    (steady : resources.settings.Steady) {lives : List Lifetime}
    (instants : ∀ life ∈ lives, life.history.InRange) (config : SessionConfig) :
    (load scope config (resources.afterLives scope lives)).1.record =
        lastRecord scope resources origin lives ∧
      (load scope config (resources.afterLives scope lives)).1.InSync scope
        (origin.first resources.uuids).userId (legacyAfter resources.settings.backend origin)
        (load scope config (resources.afterLives scope lives)).2 := by
  induction lives using List.reverseRecOn generalizing config with
  | nil => exact load_first named config holds steady
  | append_singleton earlier life inductionHypothesis =>
      have earlierInRange : ∀ other ∈ earlier, other.history.InRange :=
        fun other member => instants other (List.mem_append_left _ member)
      have loaded := (inductionHypothesis earlierInRange life.config).2
      have ended := loaded.after named (instants life (by simp))
      have last : lastRecord scope resources origin (earlier ++ [life]) =
          (life.run scope (resources.afterLives scope earlier)).1.record := by
        rw [lastRecord, List.getLast?_concat, List.dropLast_concat]
      rw [afterLives_concat, last, ← ended.ofUser]
      exact load_stored config ended.keeps ended.answers ended.steady

theorem starts_of_idle {history : SessionHistory} (idle : ∀ move ∈ history, move.isIdle)
    (config : SessionConfig) (instant : Int) : history.Starts config instant := by
  have noInstant : history.filterMap SessionMove.instant? = [] := by
    rw [List.filterMap_eq_nil_iff]
    exact fun move member => Option.isNone_iff_eq_none.mp (idle move member)
  exact .inl (by rw [SessionHistory.lastInstant?, noInstant, List.getLast?_nil])

/-- The first event after a launch starts a session, whatever its instant is. -/
theorem first_update_starts (scope : String) (config : SessionConfig) (resources : Resources)
    {idle : SessionHistory} (areIdle : ∀ move ∈ idle, move.isIdle) (event : Uuid)
    (instant : Int) (signal : Option LifecycleSignal) :
    let loaded := load scope config resources
    let waiting := loaded.1.after loaded.2 idle
    let record := (waiting.1.update waiting.2 event instant signal).1.record
    record.sessionIndex = min (loaded.1.record.sessionIndex + 1) 0xFFFFFFFF ∧
      record.previousSessionId =
        (if loaded.1.record.sessionId = "" then none else some loaded.1.record.sessionId) ∧
      record.sessionId = waiting.2.uuids.next.text ∧
      record.firstEventId = some event.text ∧
      record.eventIndex = 1 := by
  intro loaded waiting record
  have remembers : waiting.1.Remembers config idle :=
    (load_remembers scope config resources).after loaded.2 idle
  have starts : waiting.1.startsAnew instant = true :=
    (remembers.startsAnew_iff instant).mpr (starts_of_idle areIdle config instant)
  have unchanged : waiting.1.state = loaded.1.state :=
    state_after_idle loaded.1 loaded.2 areIdle
  have state : (waiting.1.update waiting.2 event instant signal).1.state = _ :=
    (update_of_startsAnew starts).1
  rw [unchanged] at state
  refine ⟨?_, ?_, ?_, ?_, ?_⟩
  · exact congrArg SessionState.sessionIndex state
  · exact congrArg SessionState.previousSessionId state
  · exact congrArg SessionState.sessionId state
  · exact congrArg SessionState.firstEventId state
  · exact congrArg SessionState.eventIndex state

/-- With calls that succeed, every launch takes up the record that the lifetime before it left,
or the first record of what the store held. Then the stored record is the one in memory whatever
is done with the session, its user is that of the first record, and a legacy record that was
moved is gone. The first event starts the session that follows the last one. -/
theorem launches_resume (named : scope ≠ legacyScope) {origin : SessionOrigin}
    (holds : resources.settings.backend.HasOrigin scope origin)
    (steady : resources.settings.Steady) {lives : List Lifetime}
    (instants : ∀ life ∈ lives, life.history.InRange) (config : SessionConfig) :
    let first := origin.first resources.uuids
    let last := lastRecord scope resources origin lives
    let loaded := load scope config (resources.afterLives scope lives)
    loaded.1.record = last ∧
      (∀ history : SessionHistory, history.InRange →
        let now := loaded.1.after loaded.2 history
        now.2.settings.backend.Keeps scope now.1.record ∧
          now.1.record.userId = first.userId ∧
          ∀ value sessionId, origin = .legacy value sessionId →
            now.2.settings.backend.get (.legacy SessionRecord.settingsName) = .ok none) ∧
      ∀ idle : SessionHistory, (∀ move ∈ idle, move.isIdle) → ∀ event instant signal,
        let waiting := loaded.1.after loaded.2 idle
        let next := (waiting.1.update waiting.2 event instant signal).1.record
        next.sessionIndex = min (last.sessionIndex + 1) 0xFFFFFFFF ∧
          next.previousSessionId =
            (if last.sessionId = "" then none else some last.sessionId) ∧
          next.sessionId = waiting.2.uuids.next.text ∧
          next.firstEventId = some event.text ∧
          next.eventIndex = 1 := by
  intro first last loaded
  obtain ⟨restored, inSync⟩ := load_afterLives named holds steady instants config
  refine ⟨restored, ?_, ?_⟩
  · intro history inRange now
    have still := inSync.after named inRange
    refine ⟨still.keeps, still.ofUser, ?_⟩
    rintro value sessionId rfl
    exact still.answers
  · intro idle areIdle event instant signal waiting next
    have isLast : loaded.1.record = last := restored
    rw [← isLast]
    exact first_update_starts scope config (resources.afterLives scope lives) areIdle event
      instant signal

/-- From a legacy record, after a lifetime with two sessions and one without an event, the third
launch has the user of that record, and its first event starts the third session. -/
theorem third_launch_resumes_legacy_record :
    let legacy : Json := .object [("sessionId", .string "old"), ("sessionIndex", .integer 7),
      ("userId", .string "user")]
    let records : Records Json := [(.legacy SessionRecord.settingsName, legacy)]
    let resources : Resources :=
      ⟨{ backend := .memory ⟨records⟩ }, .standard, ⟨fun n => ⟨n⟩, 0⟩⟩
    let events : SessionHistory :=
      [.update ⟨90⟩ 1000 (some .foreground), .startNew, .update ⟨91⟩ 1001 none]
    let lives : List Lifetime := [⟨{}, events⟩, ⟨{}, []⟩]
    let loaded := load "scope" {} (resources.afterLives "scope" lives)
    let waiting := loaded.1.after loaded.2 [.startNew]
    let next := (waiting.1.update waiting.2 ⟨92⟩ 500 none).1.record
    "scope" ≠ legacyScope ∧
      resources.settings.backend.HasOrigin "scope" (.legacy legacy "old") ∧
      resources.settings.Steady ∧ (∀ life ∈ lives, life.history.InRange) ∧
      waiting.2.settings.backend.Keeps "scope" waiting.1.record ∧
      waiting.1.record.userId = "user" ∧
      waiting.2.settings.backend.get (.legacy SessionRecord.settingsName) = .ok none ∧
      next.sessionIndex = 10 := by
  intro legacy records resources events lives loaded waiting next
  have named : "scope" ≠ legacyScope := by decide
  have holds : resources.settings.backend.HasOrigin "scope" (.legacy legacy "old") :=
    ⟨rfl, rfl, rfl⟩
  have steady : resources.settings.Steady := fun _ _ => rfl
  have instants : ∀ life ∈ lives, life.history.InRange := by
    simp [lives, events, SessionHistory.InRange, SessionMove.instant?, SessionRecord.IsInstant,
      Json.leastSigned, Json.greatestSigned]
  have resume := launches_resume named holds steady instants {}
  have kept := resume.2.1 [.startNew] (by simp [SessionHistory.InRange, SessionMove.instant?])
  have starts := resume.2.2 [.startNew] (by simp [SessionMove.isIdle, SessionMove.instant?])
    ⟨92⟩ 500 none
  refine ⟨named, holds, steady, instants, ?_⟩
  -- With the names opened on both sides no launch has to be run to see that they agree.
  dsimp only at kept starts
  dsimp only [loaded, waiting, next]
  refine ⟨kept.1, kept.2.1.trans ?_, kept.2.2 legacy "old" rfl, starts.1.trans ?_⟩
  · decide +kernel
  · decide +kernel

end Session

end Telemetry

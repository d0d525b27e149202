import Mathlib.Data.List.Induction
import Telemetry.Session

/-!
Contract: sessions part a series of events where they are idle for too long.

Owns:
- what is done with a session, and what its history says: the instant of the latest event,
  the latest signal, and whether a new session was asked for since;
- that a session's state is what its history says;
- which event starts a session, and the states of events.

Does not own: how a record is stored.
-/

namespace Telemetry

/-- What is done with a session: an event advances it, a new session is asked for, or the
user is hidden or shown. -/
inductive SessionMove where
  | update (event : Uuid) (instant : Int) (signal : Option LifecycleSignal)
  | startNew
  | setAnonymise (on : Bool)
deriving DecidableEq, Repr

namespace SessionMove

def instant? : SessionMove → Option Int
  | .update _ instant _ => some instant
  | _ => none

def signal? : SessionMove → Option LifecycleSignal
  | .update _ _ signal => signal
  | _ => none

/-- The move is no event. -/
def isIdle (move : SessionMove) : Bool := move.instant?.isNone

end SessionMove

/-! ### What a history says -/

/-- What was done with a session since it was loaded, oldest first. -/
abbrev SessionHistory := List SessionMove

namespace SessionHistory

/-- The instant of the latest event. -/
def lastInstant? (history : SessionHistory) : Option Int :=
  (history.filterMap SessionMove.instant?).getLast?

/-- The latest lifecycle signal. -/
def lastSignal? (history : SessionHistory) : Option LifecycleSignal :=
  (history.filterMap SessionMove.signal?).getLast?

/-- What was done since the latest event, latest first. -/
def sinceLast (history : SessionHistory) : List SessionMove :=
  history.reverse.takeWhile SessionMove.isIdle

/-- How long a session may be idle after a history. -/
def timeout (history : SessionHistory) (config : SessionConfig) : Int :=
  if history.lastSignal? = some .background then
    config.backgroundTimeout
  else
    config.foregroundTimeout

/-- An event at an instant starts a session: it is the first, or a session was asked for
since the event before, or that event is too long ago. Spans count up to the greatest. -/
def Starts (history : SessionHistory) (config : SessionConfig) (instant : Int) : Prop :=
  history.lastInstant? = none ∨ .startNew ∈ history.sinceLast ∨
    ∃ last ∈ history.lastInstant?, min (history.timeout config) Time.greatestInstant ≤
      min (instant - last) Time.greatestInstant

instance (history : SessionHistory) (config : SessionConfig) (instant : Int) :
    Decidable (history.Starts config instant) :=
  inferInstanceAs (Decidable (_ ∨ _ ∨ _))

variable (history : SessionHistory)

theorem lastInstant?_update (event : Uuid) (instant : Int) (signal : Option LifecycleSignal) :
    lastInstant? (history ++ [.update event instant signal]) = some instant := by
  rw [lastInstant?, List.filterMap_append]
  exact List.getLast?_concat

theorem lastInstant?_idle {move : SessionMove} (idle : move.isIdle) :
    lastInstant? (history ++ [move]) = lastInstant? history := by
  rw [lastInstant?, List.filterMap_append, List.filterMap_cons_none (Option.isNone_iff_eq_none.mp idle),
    List.filterMap_nil, List.append_nil, lastInstant?]

theorem lastSignal?_concat (move : SessionMove) :
    lastSignal? (history ++ [move]) = move.signal?.or (lastSignal? history) := by
  rw [lastSignal?, List.filterMap_append, lastSignal?, List.filterMap_cons, List.filterMap_nil]
  cases move.signal? with
  | none => rw [List.append_nil]; rfl
  | some signal => exact List.getLast?_concat

theorem sinceLast_update (event : Uuid) (instant : Int) (signal : Option LifecycleSignal) :
    sinceLast (history ++ [.update event instant signal]) = [] := by
  rw [sinceLast, List.reverse_append]
  rfl

theorem sinceLast_idle {move : SessionMove} (idle : move.isIdle) :
    sinceLast (history ++ [move]) = move :: sinceLast history := by
  rw [sinceLast, List.reverse_append, List.reverse_singleton, List.singleton_append,
    List.takeWhile_cons_of_pos idle, sinceLast]

end SessionHistory

/-! ### A session after a history -/

namespace Session

def perform (session : Session) (resources : Resources) : SessionMove → Session × Resources
  | .update event instant signal => session.update resources event instant signal
  | .startNew => (session.startNew, resources)
  | .setAnonymise on => (session.setAnonymise on, resources)

/-- The session after a history. -/
def after (session : Session) (resources : Resources) (history : SessionHistory) :
    Session × Resources :=
  history.foldl (fun current move => current.1.perform current.2 move) (session, resources)

theorem after_concat (session : Session) (resources : Resources) (history : SessionHistory)
    (move : SessionMove) :
    session.after resources (history ++ [move]) =
      (session.after resources history).1.perform (session.after resources history).2 move := by
  rw [after, List.foldl_append]
  rfl

/-- A session with a set-up remembers of its history what the next event asks for. -/
structure Remembers (session : Session) (config : SessionConfig) (history : SessionHistory) :
    Prop where
  config : session.config = config
  lastAccess : session.lastAccess = history.lastInstant?
  inBackground : session.inBackground = decide (history.lastSignal? = some .background)
  forceNew : session.forceNew = decide (.startNew ∈ history.sinceLast)

theorem load_remembers (scope : String) (config : SessionConfig) (resources : Resources) :
    (load scope config resources).1.Remembers config [] := by
  unfold load
  simp only
  split <;> exact ⟨rfl, rfl, rfl, rfl⟩

theorem update_session (session : Session) (resources : Resources) (event : Uuid)
    (instant : Int) (signal : Option LifecycleSignal) :
    (session.update resources event instant signal).1 =
      session.advanced resources.draw.1 event instant signal := by
  unfold update
  simp only
  split <;> rfl

/-- Cutting spans off at the greatest one makes no difference below: no timeout is
negative. -/
theorem timeout_le_elapsed_iff (span : Nat) (instant last : Int) :
    Time.spanMillis span ≤ Time.elapsed instant last ↔
      min (span : Int) Time.greatestInstant ≤ min (instant - last) Time.greatestInstant := by
  simp only [Time.spanMillis, Time.elapsed, Time.clampInstant, Time.leastInstant,
    Time.greatestInstant, Int.ofNat_eq_natCast]
  omega

namespace Remembers

variable {session : Session} {config : SessionConfig} {history : SessionHistory}

theorem startsAnew_iff (remembers : session.Remembers config history) (instant : Int) :
    session.startsAnew instant = true ↔ history.Starts config instant := by
  have timeout : session.timeout = Time.spanMillis
      (if history.lastSignal? = some .background then config.backgroundTimeout
        else config.foregroundTimeout) := by
    rw [Session.timeout, remembers.inBackground, remembers.config]
    simp only [decide_eq_true_eq]
  have isExpired : session.isExpired instant = true ↔ history.lastInstant? = none ∨
      ∃ last ∈ history.lastInstant?, min (history.timeout config) Time.greatestInstant ≤
        min (instant - last) Time.greatestInstant := by
    rw [Session.isExpired, remembers.lastAccess]
    cases history.lastInstant? with
    | none => simp
    | some last =>
        simp only [decide_eq_true_eq, reduceCtorEq, Option.mem_some_iff, exists_eq_left',
          false_or, timeout, timeout_le_elapsed_iff, SessionHistory.timeout]
        split <;> exact Iff.rfl
  rw [startsAnew, Bool.or_eq_true, isExpired, remembers.forceNew, decide_eq_true_eq,
    SessionHistory.Starts]
  exact or_left_comm

theorem perform (remembers : session.Remembers config history) (resources : Resources)
    (move : SessionMove) :
    (session.perform resources move).1.Remembers config (history ++ [move]) := by
  cases move with
  | update event instant signal =>
      rw [Session.perform, update_session]
      constructor
      case config => exact remembers.config
      case lastAccess => exact (history.lastInstant?_update event instant signal).symm
      case inBackground =>
        rw [history.lastSignal?_concat, advanced]
        cases signal with
        | none => exact remembers.inBackground
        | some signal => cases signal <;> rfl
      case forceNew =>
        -- An event clears the request, since a request makes it start a session.
        rw [history.sinceLast_update, advanced]
        simp only [startsAnew]
        cases session.forceNew <;> rfl
  | startNew =>
      have idle : SessionMove.startNew.isIdle = true := rfl
      constructor
      case config => exact remembers.config
      case lastAccess => rw [history.lastInstant?_idle idle]; exact remembers.lastAccess
      case inBackground => rw [history.lastSignal?_concat]; exact remembers.inBackground
      case forceNew => rw [history.sinceLast_idle idle]; simp [Session.perform, startNew]
  | setAnonymise on =>
      have idle : (SessionMove.setAnonymise on).isIdle = true := rfl
      constructor
      case config => exact remembers.config
      case lastAccess => rw [history.lastInstant?_idle idle]; exact remembers.lastAccess
      case inBackground => rw [history.lastSignal?_concat]; exact remembers.inBackground
      case forceNew =>
        rw [history.sinceLast_idle idle]
        simpa [Session.perform, setAnonymise] using remembers.forceNew

/-- By induction on a history, latest move last. -/
theorem after (remembers : session.Remembers config []) (resources : Resources)
    (history : SessionHistory) :
    (session.after resources history).1.Remembers config history := by
  induction history using List.reverseRecOn with
  | nil => exact remembers
  | append_singleton earlier move inductionHypothesis =>
      rw [after_concat]
      exact inductionHypothesis.perform _ move

end Remembers

/-! ### The states of events -/

/-- Lifecycle counters do not show in a state. -/
theorem ofRecord_counted (record : SessionRecord) (signal : Option LifecycleSignal)
    (storageMechanism : String) :
    SessionState.ofRecord (counted record signal) storageMechanism =
      SessionState.ofRecord record storageMechanism := by
  rcases signal with _ | signal
  · rfl
  · cases signal <;> rfl

theorem state_after_idle (session : Session) (resources : Resources) {history : SessionHistory}
    (idle : ∀ move ∈ history, move.isIdle) :
    (session.after resources history).1.state = session.state := by
  induction history using List.reverseRecOn with
  | nil => rfl
  | append_singleton earlier move inductionHypothesis =>
      have earlierIdle : ∀ other ∈ earlier, other.isIdle :=
        fun other member => idle other (List.mem_append_left _ member)
      rw [after_concat, ← inductionHypothesis earlierIdle]
      cases move with
      | update event instant signal => cases idle (.update event instant signal) (by simp)
      | startNew => rfl
      | setAnonymise on => rfl

variable {session : Session} {resources : Resources} {event : Uuid} {instant : Int}
  {signal : Option LifecycleSignal}

theorem update_of_startsAnew (starts : session.startsAnew instant = true) :
    (session.update resources event instant signal).1.state =
        { session.state with
          sessionId := resources.uuids.next.text
          previousSessionId :=
            if session.state.sessionId = "" then none else some session.state.sessionId
          sessionIndex := min (session.state.sessionIndex + 1) 0xFFFFFFFF
          firstEventId := some event.text
          firstEventTimestamp := some instant
          eventIndex := 1 } ∧
      (session.update resources event instant signal).2.uuids = resources.uuids.skip 1 ∧
      (session.update resources event instant signal).2.bus.published =
        started (session.update resources event instant signal).1.record ::
          resources.bus.published := by
  refine ⟨?_, ?_, ?_⟩
  · rw [update_session, advanced, state, ofRecord_counted, if_pos starts]
    simp only [state, SessionState.ofRecord, renewed, String.isEmpty_iff]
    rfl
  · simp only [update, starts, if_true]
    rfl
  · simp only [update, starts, if_true]
    rfl

theorem update_of_continues (continues : session.startsAnew instant = false) :
    (session.update resources event instant signal).1.state =
        { session.state with eventIndex := min (session.state.eventIndex + 1) 0xFFFFFFFF } ∧
      (session.update resources event instant signal).2.bus = resources.bus := by
  refine ⟨?_, ?_⟩
  · rw [update_session, advanced, state, ofRecord_counted, continues]
    rfl
  · simp only [update, continues, Bool.false_eq_true, if_false]
    rfl

/-- After any history an event starts a session, or continues the one before. In the first
case its state is that of a new session with it as the first event, and one signal tells of
the session; in the second the state only counts it. Until the next event the state stays. -/
theorem events_start_or_continue (scope : String) (config : SessionConfig)
    (resources : Resources) (history : SessionHistory) (event : Uuid) (instant : Int)
    (signal : Option LifecycleSignal) :
    let loaded := load scope config resources
    let before := loaded.1.after loaded.2 history
    let last := before.1.state
    let next := before.1.update before.2 event instant signal
    let state := next.1.state
    (history.Starts config instant →
      state =
          { last with
            sessionId := before.2.uuids.next.text
            previousSessionId := if last.sessionId = "" then none else some last.sessionId
            sessionIndex := min (last.sessionIndex + 1) 0xFFFFFFFF
            firstEventId := some event.text
            firstEventTimestamp := some instant
            eventIndex := 1 } ∧
        next.2.uuids = before.2.uuids.skip 1 ∧
        next.2.bus.published =
          .sessionStarted state.sessionId state.sessionIndex state.previousSessionId ::
            before.2.bus.published) ∧
      (¬ history.Starts config instant →
        state = { last with eventIndex := min (last.eventIndex + 1) 0xFFFFFFFF } ∧
          next.2.bus = before.2.bus) ∧
      ∀ idle : SessionHistory, (∀ move ∈ idle, move.isIdle) →
        (next.1.after next.2 idle).1.state = state := by
  intro loaded before last next state
  have remembers : before.1.Remembers config history :=
    (load_remembers scope config resources).after loaded.2 history
  refine ⟨?_, ?_, fun idle areIdle => state_after_idle next.1 next.2 areIdle⟩
  · intro starts
    exact update_of_startsAnew ((remembers.startsAnew_iff instant).mpr starts)
  · intro continues
    refine update_of_continues (Bool.eq_false_iff.mpr fun starts => continues ?_)
    exact (remembers.startsAnew_iff instant).mp starts

/-- The timeout is that of the background until the application is seen again, a clock that
goes back starts no session, and a request is for one session only. -/
theorem events_start_after_background_and_request :
    let config : SessionConfig := { foregroundTimeout := 1000, backgroundTimeout := 100 }
    let resources : Resources :=
      ⟨{ backend := .memory .empty }, .standard, ⟨fun n => ⟨n⟩, 0⟩⟩
    let hidden : SessionHistory := [.update ⟨1⟩ 0 (some .background)]
    let asked : SessionHistory := hidden ++ [.update ⟨2⟩ 100 (some .foreground), .startNew]
    let continued : SessionHistory := asked ++ [.update ⟨3⟩ 90 none]
    let loaded := load "scope" config resources
    let state (history : SessionHistory) (instant : Int) :=
      ((loaded.1.after loaded.2 history).1.update (loaded.1.after loaded.2 history).2 ⟨9⟩ instant
        none).1.state
    ¬ hidden.Starts config 99 ∧ hidden.Starts config 100 ∧
      asked.Starts config 90 ∧ (state asked 90).sessionIndex = 3 ∧
      ¬ continued.Starts config (-7) ∧ (state continued (-7)).sessionIndex = 3 := by
  intro config resources hidden asked continued loaded state
  have starts : asked.Starts config 90 := by decide
  have continues : ¬ continued.Starts config (-7) := by decide
  have third :=
    (events_start_or_continue "scope" config resources asked ⟨9⟩ 90 none).1 starts
  have still :=
    (events_start_or_continue "scope" config resources continued ⟨9⟩ (-7) none).2.1 continues
  refine ⟨by decide, by decide, starts, ?_, continues, ?_⟩
  · rw [show state asked 90 = _ from third.1]
    decide +kernel
  · rw [show state continued (-7) = _ from still.1]
    decide +kernel

end Session

end Telemetry

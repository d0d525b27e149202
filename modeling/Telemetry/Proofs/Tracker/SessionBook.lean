import Telemetry.Proofs.State.Order
import Telemetry.Proofs.State.Steady
import Telemetry.Proofs.Tracker.Launches
import Telemetry.Proofs.Tracker.SessionMachine

/-!
Contract: a tracker updates its session once for each tracked event, in the order of the calls.

Owns:
- the book of a session, which has no machines: a tracked event updates the session at once;
- that a tracker's session is that of the book after every call, whatever the host does between
  with machines of its own;
- the same from the launch on, which may track the event of a first launch.

Does not own: what an update does.
-/

namespace Telemetry

variable {η : Type}

/-- A session with its stores, as tracked events alone make it. -/
structure SessionBook where
  session : Session
  resources : Resources
  tracking : Bool := true

namespace SessionBook

/-- The identifier of an event: its own, or a new one. -/
def identify (book : SessionBook) (event : Event) : Uuid × Resources :=
  match event.id with
  | some id => (id, book.resources)
  | none => book.resources.draw

/-- A tracked event updates the session, once. -/
def track (book : SessionBook) (event : Event) (now : Int) : SessionBook :=
  if book.tracking then
    let (id, resources) := book.identify event
    let (session, resources) :=
      book.session.update resources id now (LifecycleSignal.ofSchema? event.schema?)
    { book with session := session, resources := resources }
  else
    book

theorem track_of_tracking {book : SessionBook} (on : book.tracking = true) (event : Event)
    (now : Int) :
    book.track event now =
      let updated := book.session.update (book.identify event).2 (book.identify event).1 now
        (LifecycleSignal.ofSchema? event.schema?)
      { book with session := updated.1, resources := updated.2 } := by
  rw [track, if_pos on]

def perform (book : SessionBook) : TrackerMove η → SessionBook
  | .track event now => book.track event now
  | .trackMessage message now =>
    match Event.ofMessage message with
    | .ok event => book.track event now
    | .error _ => book
  | .setTracking on => { book with tracking := on }
  | .startNewSession => { book with session := book.session.startNew }
  | .setAnonymise on => { book with session := book.session.setAnonymise on }
  | _ => book

def withResources (book : SessionBook) (resources : Resources) : SessionBook :=
  { book with resources := resources }

/-- The event of a first launch is tracked unless one is on record. -/
def trackInstall (book : SessionBook) (scope : String) (now : Int) : SessionBook :=
  let key : SettingsKey := ⟨scope, Tracker.installName⟩
  match (book.resources.migrate key some).2.read key with
  | (.ok none, resources) =>
    match resources.write key (Tracker.installRecord now) with
    | (.ok _, resources) => (book.withResources resources).track (Tracker.installEvent now) now
    | (.error _, resources) => book.withResources resources
  | (_, resources) => book.withResources resources

end SessionBook

/-- The book at the end of a launch. -/
def LaunchPlan.book (plan : LaunchPlan η) (store : SettingsStore) : SessionBook :=
  let (session, resources) :=
    Session.load plan.settings.scope plan.sessionConfig (plan.parts store).resources
  let book : SessionBook :=
    { session := session.setAnonymise plan.settings.anonymise, resources := resources }
  if plan.settings.install then book.trackInstall plan.settings.scope plan.now else book

/-- The machine of the session stays registered, and no other takes its place. -/
def TrackerMove.SparesSession : TrackerMove η → Prop
  | .addMachine machine => machine.identifier ≠ World.sessionIdentifier
  | .removeMachine identifier => identifier ≠ World.sessionIdentifier
  | _ => True

/-! ### Stores -/

namespace Resources.SameStores

variable {resources other : Resources}

theorem migrate (same : resources.SameStores other) (key : SettingsKey)
    (transform : Json → Option Json) :
    (resources.migrate key transform).2.SameStores (other.migrate key transform).2 := by
  rw [Resources.migrate, Resources.migrate, same.settings]
  exact ⟨rfl, same.uuids⟩

theorem read (same : resources.SameStores other) (key : SettingsKey) :
    (other.read key).1 = (resources.read key).1 ∧
      (resources.read key).2.SameStores (other.read key).2 := by
  rw [Resources.read, Resources.read, same.settings]
  exact ⟨rfl, rfl, same.uuids⟩

theorem write (same : resources.SameStores other) (key : SettingsKey) (value : Json) :
    (other.write key value).1 = (resources.write key value).1 ∧
      (resources.write key value).2.SameStores (other.write key value).2 := by
  rw [Resources.write, Resources.write, same.settings]
  exact ⟨rfl, rfl, same.uuids⟩

end Resources.SameStores

theorem World.updateSession_of_session {world : World η} {session : Session}
    {resources : Resources} (isSession : world.session = some session)
    (stores : resources.SameStores world.resources) (event : ObservedEvent) :
    let updated := session.update resources event.id event.timestamp
      (LifecycleSignal.ofSchema? event.schema)
    (world.updateSession event).2.session = some updated.1 ∧
      updated.2.SameStores (world.updateSession event).2.resources := by
  intro updated
  obtain ⟨sessions, after⟩ := stores.update session event.id event.timestamp
    (LifecycleSignal.ofSchema? event.schema)
  rw [World.updateSession, isSession]
  exact ⟨congrArg some sessions, after⟩

namespace Tracker

/-! ### One call -/

/-- The tracker's session is that of the book, and nothing is due that will change it. -/
structure Follows (tracker : Tracker η) (book : SessionBook) : Prop where
  has : tracker.manager.HasSession
  idle : tracker.manager.Idle
  session : tracker.world.session = some book.session
  stores : book.resources.SameStores tracker.world.resources
  tracking : tracker.tracking = book.tracking

variable {tracker : Tracker η} {book : SessionBook}

theorem identify_tracking (tracker : Tracker η) (event : Event) :
    (tracker.identify event).2.tracking = tracker.tracking := by
  unfold identify
  split <;> rfl

theorem enrich_tracking (tracker : Tracker η) (event : ObservedEvent) :
    (tracker.enrich event).2.tracking = tracker.tracking := rfl

theorem accepts_tracking (tracker : Tracker η) (enriched : Enriched) :
    (tracker.accepts enriched).2.tracking = tracker.tracking := rfl

theorem voted_tracking (tracker : Tracker η) (event : Event) (now : Int) :
    (tracker.voted event now).tracking = tracker.tracking := by
  rw [voted, accepts_tracking, enriched, enrich_tracking, identify_tracking]

/-- Asking for entities makes the event update the session. -/
theorem enrich_session (has : tracker.manager.HasSession) (idle : tracker.manager.Idle)
    (event : ObservedEvent) :
    (tracker.enrich event).2.manager.HasSession ∧ (tracker.enrich event).2.manager.Idle ∧
      (tracker.world.updateSession event).2.SameSession (tracker.enrich event).2.world := by
  obtain ⟨newest, noted⟩ := has.snapshot idle tracker.world event
  have valued := Manager.questions_addPayloadValues
    (tracker.manager.snapshot tracker.world event).2.1
    (tracker.manager.snapshot tracker.world event).2.2 event
    (tracker.manager.snapshot tracker.world event).1 event.data
  have given := (noted.questions valued).entities event
  rw [valued.frame.2.1] at given
  exact given

theorem accepts_session (has : tracker.manager.HasSession) (idle : tracker.manager.Idle)
    (enriched : Enriched) :
    (tracker.accepts enriched).2.manager.HasSession ∧ (tracker.accepts enriched).2.manager.Idle ∧
      tracker.world.SameSession (tracker.accepts enriched).2.world := by
  have asked := tracker.manager.questions_accepts tracker.world enriched.event enriched.seen
  exact ⟨has.questions asked, idle.questions has asked⟩

theorem voted_session (has : tracker.manager.HasSession) (idle : tracker.manager.Idle)
    (event : Event) (now : Int) :
    (tracker.voted event now).manager.HasSession ∧ (tracker.voted event now).manager.Idle ∧
      ((tracker.identify event).2.world.updateSession (tracker.observed event now)).2.SameSession
        (tracker.voted event now).world := by
  obtain ⟨manager, -⟩ := tracker.identify_frame event
  rw [← manager] at has idle
  have updated := enrich_session has idle (tracker.observed event now)
  rw [voted, enriched]
  generalize (tracker.identify event).2.enrich (tracker.observed event now) = done at updated ⊢
  obtain ⟨hasThen, idleThen, isUpdated⟩ := updated
  obtain ⟨hasLast, idleLast, same⟩ := accepts_session hasThen idleThen done.1
  exact ⟨hasLast, idleLast, World.sameSession_cumulative.along isUpdated same⟩

namespace Follows

/-- Other parts of a tracker may change. -/
theorem of_sameSession (follows : tracker.Follows book) {after : Tracker η}
    (manager : after.manager = tracker.manager) (same : tracker.world.SameSession after.world)
    (tracking : after.tracking = tracker.tracking) : after.Follows book where
  has := manager ▸ follows.has
  idle := manager ▸ follows.idle
  session := same.session.trans follows.session
  stores := follows.stores.trans same.stores
  tracking := tracking.trans follows.tracking

theorem publish (follows : tracker.Follows book) (notification : Notification) :
    (tracker.publish notification).Follows book :=
  follows.of_sameSession rfl ⟨rfl, rfl, rfl⟩ rfl

theorem identify (follows : tracker.Follows book) (event : Event) :
    (book.identify event).1 = tracker.idOf event ∧
      (tracker.identify event).2.world.session = some book.session ∧
        (book.identify event).2.SameStores (tracker.identify event).2.world.resources := by
  rw [← identify_fst]
  cases own : event.id with
  | some id =>
      simp only [Tracker.identify, SessionBook.identify, own]
      exact ⟨trivial, follows.session, follows.stores⟩
  | none =>
      obtain ⟨identifiers, drawn⟩ := follows.stores.draw
      simp only [Tracker.identify, SessionBook.identify, own]
      exact ⟨identifiers.symm, follows.session, drawn⟩

theorem withResources (follows : tracker.Follows book) {resources stored : Resources}
    (same : stored.SameStores resources) :
    (tracker.withResources resources).Follows (book.withResources stored) :=
  { follows with stores := same }

/-- By the time of the votes the event has updated the session, which the book does at once. -/
theorem voted (follows : tracker.Follows book) (on : tracker.tracking = true) (event : Event)
    (now : Int) : (tracker.voted event now).Follows (book.track event now) := by
  obtain ⟨has, idle, updated⟩ := voted_session follows.has follows.idle event now
  obtain ⟨sameId, session, stores⟩ := follows.identify event
  obtain ⟨isSession, areStores⟩ :=
    World.updateSession_of_session session stores (tracker.observed event now)
  have bookTracking : book.tracking = true := follows.tracking.symm.trans on
  rw [SessionBook.track_of_tracking bookTracking, sameId]
  constructor
  case has => exact has
  case idle => exact idle
  case session => exact updated.session.trans isSession
  case stores => exact areStores.trans updated.stores
  case tracking => rw [voted_tracking, on, bookTracking]

theorem enqueue (follows : tracker.Follows book) (enriched : Enriched) (now : Int) :
    (tracker.enqueue enriched now).2.Follows book := by
  have told := follows.has.afterTrack tracker.world enriched.event
  simp only [Tracker.enqueue]
  split
  · exact follows.of_sameSession rfl ⟨rfl, rfl, rfl⟩ rfl
  · exact follows.of_sameSession rfl ⟨told.session, told.stores.settings, told.stores.uuids⟩ rfl

/-- Whatever becomes of an event, it updates the session once, or not if tracking is off. -/
theorem track (follows : tracker.Follows book) (event : Event) (now : Int) :
    (tracker.track event now).2.Follows (book.track event now) := by
  cases on : tracker.tracking with
  | false =>
      have off : book.tracking = false := follows.tracking.symm.trans on
      rw [Tracker.track, on, SessionBook.track, off]
      exact follows
  | true =>
      have voted := follows.voted on event now
      rw [track_of_tracking on]
      split
      · have queued := voted.enqueue (tracker.enriched event now).1 now
        generalize (tracker.voted event now).enqueue (tracker.enriched event now).1 now = done
          at queued ⊢
        exact queued
      · exact voted.publish _

/-! ### Every series of calls -/

theorem mapSession (follows : tracker.Follows book) (change : Session → Session) :
    (tracker.mapSession change).Follows { book with session := change book.session } :=
  { follows with session := congrArg (Option.map change) follows.session }

theorem perform (follows : tracker.Follows book) {move : TrackerMove η}
    (spares : move.SparesSession) : (tracker.perform move).2.Follows (book.perform move) := by
  cases move with
  | track event now => exact follows.track event now
  | trackMessage message now =>
      rw [Tracker.perform, Tracker.trackMessage, SessionBook.perform]
      cases Event.ofMessage message with
      | ok event => exact follows.track event now
      | error _ => exact follows
  | setTracking on => exact { follows with tracking := rfl }
  | setSubject subject => exact follows.of_sameSession rfl ⟨rfl, rfl, rfl⟩ rfl
  | setGdpr gdpr => exact follows.of_sameSession rfl ⟨rfl, rfl, rfl⟩ rfl
  | addMachine machine =>
      exact { follows with has := follows.has.add spares, idle := follows.idle.add _ }
  | removeMachine identifier =>
      exact { follows with has := follows.has.remove spares, idle := ⟨follows.idle.leaves⟩ }
  | startNewSession => exact follows.mapSession _
  | setAnonymise on => exact follows.mapSession _
  | elsewhere source elapsed change => exact follows.of_sameSession rfl ⟨rfl, rfl, rfl⟩ rfl
  | drain transport now => exact follows.of_sameSession rfl ⟨rfl, rfl, rfl⟩ rfl
  | pauseEmitter => exact follows.of_sameSession rfl ⟨rfl, rfl, rfl⟩ rfl
  | resumeEmitter => exact follows.of_sameSession rfl ⟨rfl, rfl, rfl⟩ rfl
  | shutdown => exact follows.of_sameSession rfl ⟨rfl, rfl, rfl⟩ rfl

theorem performAll (follows : tracker.Follows book) {moves : List (TrackerMove η)}
    (spares : ∀ move ∈ moves, move.SparesSession) :
    (tracker.performAll moves).2.Follows (moves.foldl SessionBook.perform book) := by
  induction moves generalizing tracker book with
  | nil => exact follows
  | cons move rest inductionHypothesis =>
      obtain ⟨isSpared, areSpared⟩ := List.forall_mem_cons.mp spares
      exact inductionHypothesis (follows.perform isSpared) areSpared

/-! ### The event of a first launch -/

theorem reportInstall (follows : tracker.Follows book) (now : Int) :
    (tracker.reportInstall now).Follows (book.track (installEvent now) now) := by
  have tracked := follows.track (installEvent now) now
  unfold Tracker.reportInstall
  generalize tracker.track (installEvent now) now = answered at tracked
  obtain ⟨answer, after⟩ := answered
  cases answer with
  | none => exact tracked
  | some id => exact tracked.publish _

theorem trackInstall (follows : tracker.Follows book) (now : Int) :
    (tracker.trackInstall now).Follows (book.trackInstall tracker.settings.scope now) := by
  have migrated := follows.stores.migrate tracker.installKey some
  obtain ⟨answers, read⟩ := migrated.read tracker.installKey
  have bookEq : book.trackInstall tracker.settings.scope now =
      match (book.resources.migrate tracker.installKey some).2.read tracker.installKey with
      | (.ok none, resources) =>
        match resources.write tracker.installKey (installRecord now) with
        | (.ok _, resources) => (book.withResources resources).track (installEvent now) now
        | (.error _, resources) => book.withResources resources
      | (_, resources) => book.withResources resources := rfl
  rw [trackInstall_eq, bookEq, Tracker.lookedUp, Tracker.migrated]
  generalize (book.resources.migrate tracker.installKey some).2.read tracker.installKey = looked,
    (tracker.world.resources.migrate tracker.installKey some).2.read tracker.installKey = found
    at answers read
  obtain ⟨answer, stored⟩ := looked
  obtain ⟨sameAnswer, resources⟩ := found
  obtain rfl : sameAnswer = answer := answers
  match sameAnswer with
  | .error cause => exact follows.withResources read
  | .ok (some value) => exact follows.withResources read
  | .ok none =>
      obtain ⟨outcomes, written⟩ := read.write tracker.installKey (installRecord now)
      simp only
      generalize stored.write tracker.installKey (installRecord now) = noted,
        resources.write tracker.installKey (installRecord now) = done at outcomes written
      obtain ⟨outcome, storedAfter⟩ := noted
      obtain ⟨sameOutcome, after⟩ := done
      obtain rfl : sameOutcome = outcome := outcomes
      cases sameOutcome with
      | error cause => exact follows.withResources written
      | ok written => exact (follows.withResources ‹_›).reportInstall now

end Follows

end Tracker

/-! ### Launches -/

namespace Manager

theorem find?_foldl_add {ω : Type} (manager : Manager ω) {machines : List (Machine ω)}
    {identifier : String} (differ : ∀ machine ∈ machines, machine.identifier ≠ identifier) :
    (machines.foldl Manager.add manager).find? identifier = manager.find? identifier := by
  induction machines generalizing manager with
  | nil => rfl
  | cons machine rest inductionHypothesis =>
      obtain ⟨differs, restDiffer⟩ := List.forall_mem_cons.mp differ
      rw [List.foldl_cons, inductionHypothesis _ restDiffer, find?_add, if_neg differs]

end Manager

/-- The machine of the session comes first, and the other built-in ones have other identifiers. -/
theorem Tracker.builtIn_eq_cons {settings : TrackerSettings}
    (sessions : settings.sessionContext = true) (hasSource : Bool) :
    ∃ rest, builtIn settings hasSource = World.sessionMachine η :: rest ∧
      ∀ machine ∈ rest, machine.identifier ≠ World.sessionIdentifier := by
  have optional : ∀ {wanted : Bool} {one : Machine (World η)},
      one.identifier ≠ World.sessionIdentifier →
        ∀ machine ∈ (if wanted then [one] else []),
          machine.identifier ≠ World.sessionIdentifier := by
    intro wanted one differs machine member
    split at member
    · rw [List.mem_singleton.mp member]
      exact differs
    · cases member
  have lifecycle : LifecycleState.identifier ≠ World.sessionIdentifier := by decide
  have deepLink : DeepLinkState.identifier ≠ World.sessionIdentifier := by decide
  have platform : World.platformIdentifier ≠ World.sessionIdentifier := by decide
  rw [builtIn, if_pos sessions]
  refine ⟨(if settings.lifecycle then [LifecycleState.machine (World η)] else []) ++
    (if settings.deepLinks then [DeepLinkState.machine (World η)] else []) ++
    (if settings.platformContext && hasSource then [World.platformMachine η] else []), rfl, ?_⟩
  simp only [List.forall_mem_append]
  exact ⟨⟨optional lifecycle, optional deepLink⟩, optional platform⟩

namespace LaunchPlan

variable {plan : LaunchPlan η} {store : SettingsStore} {tracker : Tracker η}

theorem started_hasSession (store : SettingsStore)
    (sessions : plan.settings.sessionContext = true) :
    (plan.started store).manager.HasSession ∧ (plan.started store).manager.Idle := by
  obtain ⟨rest, isBuilt, differ⟩ :=
    Tracker.builtIn_eq_cons (η := η) sessions plan.source.isSome
  have manager : (plan.started store).manager =
      (World.sessionMachine η :: rest).foldl Manager.add {} := isBuilt ▸ rfl
  have unstarted := Manager.unstarted_foldl_add (World.sessionMachine η :: rest)
  have knows : (plan.started store).manager.Knows (World.Origin fun _ => True) :=
    Tracker.prepare_knows plan.settings plan.sessionConfig plan.deliveryConfig (plan.parts store)
  refine ⟨?_, ⟨fun isDue => ?_⟩⟩
  · constructor
    case linked => rw [manager]; exact unstarted.linked
    case tidy =>
      rw [manager]
      exact List.foldlRecOn _ Manager.add .empty fun _ tidy machine _ => tidy.add machine
    case origins => exact knows.registered
    case registered =>
      rw [manager, List.foldl_cons, Manager.find?_foldl_add _ differ, Manager.find?_add]
      exact if_pos rfl
  · rw [manager, unstarted.noVersions] at isDue
    simp at isDue

theorem started_follows (store : SettingsStore)
    (sessions : plan.settings.sessionContext = true) :
    (plan.started store).Follows {
      session := (Session.load plan.settings.scope plan.sessionConfig
        (plan.parts store).resources).1.setAnonymise plan.settings.anonymise
      resources := (Session.load plan.settings.scope plan.sessionConfig
        (plan.parts store).resources).2 } := by
  obtain ⟨has, idle⟩ := started_hasSession store sessions
  have loaded : Tracker.loadSession plan.settings plan.sessionConfig (plan.parts store).resources =
      let loaded := Session.load plan.settings.scope plan.sessionConfig (plan.parts store).resources
      (some (loaded.1.setAnonymise plan.settings.anonymise), loaded.2) := by
    rw [Tracker.loadSession, if_pos sessions]
  constructor
  case has => exact has
  case idle => exact idle
  case session => simp only [started, prepared, Tracker.prepare, loaded]
  case stores =>
    simp only [started, prepared, Tracker.prepare, loaded]
    exact ⟨rfl, rfl⟩
  case tracking => rfl

/-- A launched tracker has the session of the book, whether or not its launch was the first. -/
theorem launch_follows (sessions : plan.settings.sessionContext = true)
    (launched : plan.launch store = .ok tracker) : tracker.Follows (plan.book store) := by
  have started := started_follows store sessions
  rw [launch_eq] at launched
  split at launched
  · obtain rfl := Except.ok.inj launched
    unfold book
    split
    · exact started.trackInstall plan.now
    · exact started
  · cases launched

end LaunchPlan

/-- Whatever a host does with a manager, the transitions of a slot are run in the order of the
events that they were noted for, each once at most, and only the newest can be pending. And whatever
it does with a tracker of sessions, each tracked event has updated the session once when its call
returns, in the order of the calls. -/
theorem transitions_run_once_in_order {ω : Type} (world : ω) (uses : List (ManagerUse ω))
    {plan : LaunchPlan η} {store : SettingsStore} {tracker : Tracker η}
    {moves : List (TrackerMove η)} (sessions : plan.settings.sessionContext = true)
    (launched : plan.launch store = .ok tracker)
    (spares : ∀ move ∈ moves, move.SparesSession) :
    let watch := Watch.after world uses
    let plain := ({} : Manager ω).useAll world uses
    let last := (tracker.performAll moves).2
    let book := moves.foldl SessionBook.perform (plan.book store)
    watch.Orderly ∧ watch.Shows plain.1 plain.2 ∧
      last.world.session = some book.session ∧
      last.world.resources.settings = book.resources.settings ∧
      last.world.resources.uuids = book.resources.uuids := by
  intro watch plain last book
  obtain ⟨_, inOrder⟩ := Watch.inOrder_after world uses
  have follows := (LaunchPlan.launch_follows sessions launched).performAll spares
  exact ⟨inOrder.orderly, Watch.shows_after world uses, follows.session, follows.stores.settings,
    follows.stores.uuids⟩

/-- A manager that is not asked has run the first of two transitions. A session counts the event of
a first launch and two more, as one is not tracked. -/
theorem first_of_two_has_run_and_session_counts_three :
    let back : ObservedEvent := .ofEvent (.background 1) ⟨1⟩ 5
    let front : ObservedEvent := .ofEvent (.foreground 1) ⟨2⟩ 6
    let uses : List (ManagerUse Unit) :=
      [.move (.add (LifecycleState.machine Unit)), .move (.observe back), .move (.observe front)]
    let watch := Watch.after () uses
    let plan : LaunchPlan Unit := {
      settings := { scope := "app" }
      queue := { backend := .memory .empty }
      uuids := ⟨fun n => ⟨n⟩, 0⟩
      host := ()
      now := 5 }
    let moves : List (TrackerMove Unit) :=
      [.track (.foreground 1) 6, .setTracking false, .track (.background 1) 7, .setTracking true,
        .track (.screenView "Home" ⟨9⟩ none) 8]
    plan.settings.sessionContext = true ∧ (∀ move ∈ moves, move.SparesSession) ∧
      watch.Orderly ∧ watch.notedFor 0 = [back, front] ∧ watch.ranFor 0 = [back] ∧
      ∃ tracker, plan.launch { backend := .memory .empty } = .ok tracker ∧
        (tracker.performAll moves).2.world.session.map (fun session => session.record.eventIndex) =
          some 3 := by
  intro back front uses watch plan moves
  have spares : ∀ move ∈ moves, move.SparesSession := by
    simp [moves, TrackerMove.SparesSession]
  obtain ⟨tracker, launched, -⟩ := plan.launch_outcome { backend := .memory .empty } rfl
  obtain ⟨orderly, -, session, -⟩ :=
    transitions_run_once_in_order () uses rfl launched spares
  refine ⟨rfl, spares, orderly, rfl, rfl, tracker, launched, ?_⟩
  rw [session]
  decide +kernel

end Telemetry

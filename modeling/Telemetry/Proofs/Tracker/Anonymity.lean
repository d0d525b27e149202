import Telemetry.Proofs.Delivery.Silence
import Telemetry.Proofs.Session.Likeness
import Telemetry.Proofs.Tracker.Likeness

/-!
Contract: what a tracker stores while it hides the user depends neither on the user nor on the
sessions before.

Owns:
- trackers that differ in what is on record of sessions, and in what was published;
- that their machines act alike, so that they store the same rows and give the same answers,
  whatever is done with both;
- the same for launches over stores that differ in the session's record.

Does not own: what signals tell of a session.
-/

namespace Telemetry

variable {η : Type}

namespace World

/-- Two worlds with sessions that are alike. All that other machines see is the same. -/
structure Alike (world parallel : World η) : Prop where
  resources : world.resources.Alike parallel.resources
  sessions : ∃ session mirror, world.session = some session ∧ parallel.session = some mirror ∧
    session.Alike mirror
  platform : parallel.platform = world.platform
  source : parallel.source = world.source
  reads : parallel.reads = world.reads
  elapsed : parallel.elapsed = world.elapsed
  host : parallel.host = world.host

/-- The state of a session without what is concealed, other states as they are. -/
def visible : MachineState → MachineState
  | .session state => .session state.concealed
  | other => other

/-- What two runs have in common that may differ in the user and the sessions before. -/
def anonymous (η : Type) : Likeness (World η) (World η) where
  worlds := Alike
  states := fun kind state mirrored =>
    if kind = .session then mirrored.map visible = state.map visible else mirrored = state
  none := fun kind => by
    split <;> rfl

theorem anonymous_states_of_ne {kind : MachineKind} (isOther : kind ≠ .session)
    {state mirrored : Option MachineState} :
    (anonymous η).states kind state mirrored ↔ mirrored = state := by
  simp [anonymous, isOther]

theorem anonymous_states_session {state mirrored : Option MachineState} :
    (anonymous η).states .session state mirrored ↔
      mirrored.map visible = state.map visible := by
  simp [anonymous]

/-! ### Machines -/

namespace Alike

variable {world parallel : World η}

theorem hidesUser (alike : world.Alike parallel) :
    world.hidesUser = true ∧ parallel.hidesUser = true := by
  obtain ⟨session, mirror, isSession, isMirror, sessions⟩ := alike.sessions
  simp only [World.hidesUser, isSession, isMirror]
  exact sessions.hides

theorem updateSession (alike : world.Alike parallel) (event : ObservedEvent)
    (state mirrored : Option MachineState) :
    ((parallel.updateSession event).1.or mirrored).map visible =
        ((world.updateSession event).1.or state).map visible ∧
      (world.updateSession event).2.Alike (parallel.updateSession event).2 := by
  obtain ⟨session, mirror, isSession, isMirror, sessions⟩ := alike.sessions
  obtain ⟨next, resources⟩ := alike.resources.update sessions event.id event.timestamp
    (LifecycleSignal.ofSchema? event.schema)
  have advanced := sessions.concealed_advanced world.resources.draw.1 event.id event.timestamp
    (LifecycleSignal.ofSchema? event.schema)
  have drawn := alike.resources.draw.1
  simp only [World.updateSession, isSession, isMirror, Option.some_or, Option.map_some, visible,
    Session.update_session, drawn]
  refine ⟨by rw [advanced], ?_⟩
  exact { alike with
    resources := resources
    sessions := ⟨_, _, rfl, rfl, by simpa only [Session.update_session, drawn] using next⟩ }

/-- The states show the same entity, as both worlds hide the user. -/
theorem sessionEntities? (alike : world.Alike parallel) {state mirrored : Option MachineState}
    (same : mirrored.map visible = state.map visible) :
    parallel.sessionEntities? mirrored = world.sessionEntities? state := by
  obtain ⟨hides, mirrorHides⟩ := alike.hidesUser
  rcases state with _ | state
  · rcases mirrored with _ | mirrored
    · rfl
    · cases same
  · rcases mirrored with _ | mirrored
    · cases same
    · have sameVisible : visible mirrored = visible state := Option.some.inj same
      cases state with
      | session shown =>
          cases mirrored with
          | session mirrorShown =>
              have concealed : mirrorShown.concealed = shown.concealed :=
                MachineState.session.inj sameVisible
              simp only [World.sessionEntities?, hides, mirrorHides,
                SessionState.entity_of_concealed concealed]
          | _ => cases sameVisible
      | _ =>
          cases mirrored with
          | session mirrorShown => cases sameVisible
          | _ => rfl

theorem platformEntity (alike : world.Alike parallel) :
    parallel.platformEntity.1 = world.platformEntity.1 ∧
      world.platformEntity.2.Alike parallel.platformEntity.2 := by
  simp only [World.platformEntity, alike.platform, alike.source, alike.elapsed, alike.reads]
  split
  · exact ⟨rfl, alike⟩
  · exact ⟨rfl, { alike with platform := rfl, source := rfl, reads := rfl, elapsed := rfl }⟩

/-- The host's part may change in the same way. -/
theorem withHost (alike : world.Alike parallel) {host mirrorHost : η} (same : mirrorHost = host) :
    Alike { world with host := host } { parallel with host := mirrorHost } :=
  { alike with host := same }

end Alike

theorem sessionMachine_alike : (sessionMachine η).Alike (anonymous η) (sessionMachine η) where
  identifier := rfl
  kind := rfl
  subscriptions := rfl
  transition := fun event _ alike => by
    obtain ⟨states, worlds⟩ := alike.updateSession event _ _
    exact ⟨anonymous_states_session.mpr states, worlds⟩
  entities := fun _ same alike =>
    ⟨alike.sessionEntities? (anonymous_states_session.mp same), alike⟩
  payloadValues := fun _ _ => rfl
  filter := fun _ _ alike => ⟨rfl, alike⟩
  afterTrack := fun _ alike => alike

/-- A machine of the host does not see sessions. -/
theorem lift_alike {machine : Machine η} (isOther : machine.kind ≠ .session) :
    (lift machine).Alike (anonymous η) (lift machine) := by
  have isOtherKind : (lift machine).kind ≠ .session := isOther
  constructor
  case identifier => rfl
  case kind => rfl
  case subscriptions => rfl
  case transition =>
    intro state mirrored world parallel event same alike
    obtain rfl := (anonymous_states_of_ne isOtherKind).mp same
    rw [anonymous_states_of_ne isOtherKind]
    simp only [lift, alike.host]
    exact ⟨trivial, alike.withHost rfl⟩
  case entities =>
    intro state mirrored world parallel event same alike
    obtain rfl := (anonymous_states_of_ne isOtherKind).mp same
    simp only [lift, alike.host]
    exact ⟨trivial, alike.withHost rfl⟩
  case payloadValues =>
    intro state mirrored event same
    rw [(anonymous_states_of_ne isOtherKind).mp same]
  case filter =>
    intro state mirrored world parallel event same alike
    obtain rfl := (anonymous_states_of_ne isOtherKind).mp same
    simp only [lift, alike.host]
    exact ⟨trivial, alike.withHost rfl⟩
  case afterTrack =>
    intro world parallel event alike
    simp only [lift, alike.host]
    exact alike.withHost rfl

theorem builtIn_alike (settings : TrackerSettings) (hasSource : Bool) :
    ∀ machine ∈ Tracker.builtIn (η := η) settings hasSource,
      machine.Alike (anonymous η) machine :=
  builtIn_alikeIn sessionMachine_alike
    (platformMachine_alikeIn fun alike => Alike.platformEntity alike)
    (fun _ isOther _ _ => anonymous_states_of_ne isOther) settings hasSource

end World

/-! ### Calls on resources -/

namespace Resources.Alike

variable {resources parallel : Resources} {key : SettingsKey}

theorem migrate (alike : resources.Alike parallel)
    (isOther : key.name ≠ SessionRecord.settingsName) (transform : Json → Option Json) :
    (parallel.migrate key transform).1 = (resources.migrate key transform).1 ∧
      (resources.migrate key transform).2.Alike (parallel.migrate key transform).2 := by
  obtain ⟨answers, after⟩ := alike.settings.migrate isOther transform
  exact ⟨answers, after, alike.uuids⟩

theorem read (alike : resources.Alike parallel)
    (isOther : key.name ≠ SessionRecord.settingsName) :
    (parallel.read key).1 = (resources.read key).1 ∧
      (resources.read key).2.Alike (parallel.read key).2 :=
  ⟨alike.settings.get_fst isOther, alike.settings.get_snd key, alike.uuids⟩

theorem write (alike : resources.Alike parallel) (key : SettingsKey) (value : Json) :
    (parallel.write key value).1 = (resources.write key value).1 ∧
      (resources.write key value).2.Alike (parallel.write key value).2 := by
  obtain ⟨answers, after⟩ := alike.settings.set key value value fun _ => rfl
  exact ⟨answers, after, alike.uuids⟩

end Resources.Alike

/-! ### Trackers -/

/-- The user stays hidden, and no machine joins that is of the session's kind. -/
def TrackerMove.KeepsAnonymity : TrackerMove η → Prop
  | .setAnonymise on => on = true
  | .addMachine machine => machine.kind ≠ .session
  | _ => True

namespace Tracker

/-- Two trackers with machines and worlds that are alike, and all else the same. -/
structure Alike (tracker mirror : Tracker η) : Prop where
  settings : mirror.settings = tracker.settings
  outbox : mirror.outbox = tracker.outbox
  loop : mirror.loop = tracker.loop
  tracking : mirror.tracking = tracker.tracking
  subject : mirror.subject = tracker.subject
  gdpr : mirror.gdpr = tracker.gdpr
  managers : ∃ kindOf, tracker.manager.Alike (World.anonymous η) kindOf mirror.manager
  worlds : tracker.world.Alike mirror.world

theorem alike_iff {tracker mirror : Tracker η} :
    tracker.Alike mirror ↔ tracker.AlikeIn (World.anonymous η) mirror :=
  ⟨fun ⟨settings, outbox, loop, tracking, subject, gdpr, managers, worlds⟩ =>
      ⟨settings, outbox, loop, tracking, subject, gdpr, managers, worlds⟩,
    fun ⟨settings, outbox, loop, tracking, subject, gdpr, managers, worlds⟩ =>
      ⟨settings, outbox, loop, tracking, subject, gdpr, managers, worlds⟩⟩

/-- Identifiers are the same, and what was published makes no difference. -/
theorem anonymous_carriesOn : (World.anonymous η).CarriesOn where
  draw := by
    intro world parallel alike
    have worlds : world.Alike parallel := alike
    obtain ⟨same, drawn⟩ := worlds.resources.draw
    exact ⟨same, { worlds with resources := drawn }⟩
  publish := by
    intro world parallel notification alike
    have worlds : world.Alike parallel := alike
    exact { worlds with resources := ⟨worlds.resources.settings, worlds.resources.uuids⟩ }

namespace Alike

variable {tracker mirror : Tracker η}

theorem track (alike : tracker.Alike mirror) (event : Event) (now : Int) :
    (mirror.track event now).1 = (tracker.track event now).1 ∧
      (tracker.track event now).2.Alike (mirror.track event now).2 := by
  rw [alike_iff]
  exact (alike_iff.mp alike).track anonymous_carriesOn event now

/-- The record of a first launch is not one of a session. -/
theorem lookedUp (alike : tracker.Alike mirror) :
    mirror.lookedUp.1 = tracker.lookedUp.1 ∧
      tracker.lookedUp.2.Alike mirror.lookedUp.2 := by
  have otherName : installName ≠ SessionRecord.settingsName := by decide
  have isOther : tracker.installKey.name ≠ SessionRecord.settingsName := otherName
  obtain ⟨-, migrated⟩ := alike.worlds.resources.migrate isOther some
  rw [Tracker.lookedUp, Tracker.lookedUp, Tracker.migrated, Tracker.migrated,
    (alike_iff.mp alike).installKey]
  exact migrated.read isOther

theorem noted (alike : tracker.Alike mirror) (now : Int) :
    (mirror.noted now).1 = (tracker.noted now).1 ∧
      (tracker.noted now).2.Alike (mirror.noted now).2 := by
  rw [Tracker.noted, Tracker.noted, (alike_iff.mp alike).installKey]
  exact alike.lookedUp.2.write tracker.installKey (installRecord now)

theorem trackInstall (alike : tracker.Alike mirror) (now : Int) :
    (tracker.trackInstall now).Alike (mirror.trackInstall now) := by
  obtain ⟨found, looked⟩ := alike.lookedUp
  obtain ⟨outcome, noted⟩ := alike.noted now
  rw [alike_iff]
  refine (alike_iff.mp alike).trackInstall anonymous_carriesOn found ?_ outcome ?_
  · exact { alike.worlds with resources := looked }
  · exact { alike.worlds with resources := noted }

/-! ### What is done with both -/

theorem mapSession (alike : tracker.Alike mirror) {change : Session → Session}
    (keeps : ∀ {session mirror : Session}, session.Alike mirror →
      (change session).Alike (change mirror)) :
    (tracker.mapSession change).Alike (mirror.mapSession change) := by
  obtain ⟨session, held, isSession, isHeld, sessions⟩ := alike.worlds.sessions
  refine { alike with worlds := { alike.worlds with sessions := ?_ } }
  exact ⟨_, _, congrArg (Option.map change) isSession, congrArg (Option.map change) isHeld,
    keeps sessions⟩

theorem emitter (alike : tracker.Alike mirror) : tracker.emitter.SameOutbox mirror.emitter :=
  alike.outbox

theorem withEmitter (alike : tracker.Alike mirror) {emitter parallel : Emitter}
    (same : emitter.SameOutbox parallel) :
    (tracker.withEmitter emitter).Alike (mirror.withEmitter parallel) :=
  { alike with
    outbox := same
    worlds := { alike.worlds with
      resources := ⟨alike.worlds.resources.settings, alike.worlds.resources.uuids⟩ } }

theorem perform (alike : tracker.Alike mirror) {move : TrackerMove η}
    (keeps : move.KeepsAnonymity) :
    (mirror.perform move).1 = (tracker.perform move).1 ∧
      (tracker.perform move).2.Alike (mirror.perform move).2 := by
  obtain ⟨kindOf, managers⟩ := alike.managers
  cases move with
  | track event now => exact alike.track event now
  | trackMessage message now =>
      rw [Tracker.perform, Tracker.perform, Tracker.trackMessage, Tracker.trackMessage]
      split
      · exact alike.track _ now
      · exact ⟨rfl, alike⟩
  | setTracking on => exact ⟨rfl, { alike with tracking := rfl }⟩
  | setSubject subject => exact ⟨rfl, { alike with subject := rfl }⟩
  | setGdpr gdpr => exact ⟨rfl, { alike with gdpr := rfl }⟩
  | addMachine machine =>
      exact ⟨rfl, { alike with managers := ⟨kindOf, managers.add (World.lift_alike keeps)⟩ }⟩
  | removeMachine identifier =>
      exact ⟨rfl, { alike with managers := ⟨kindOf, managers.remove identifier⟩ }⟩
  | startNewSession => exact ⟨rfl, alike.mapSession fun sessions => sessions.startNew⟩
  | setAnonymise on =>
      obtain rfl : on = true := keeps
      exact ⟨rfl, alike.mapSession fun sessions => sessions.setAnonymise⟩
  | elsewhere source elapsed change =>
      exact ⟨rfl, { alike with
        worlds := { alike.worlds with
          source := rfl
          elapsed := rfl
          host := congrArg change alike.worlds.host } }⟩
  | drain transport clock =>
      obtain ⟨-, drained⟩ := alike.emitter.drain transport clock
      exact ⟨rfl, alike.withEmitter drained⟩
  | pauseEmitter => exact ⟨rfl, alike.withEmitter (alike.emitter.pause _)⟩
  | resumeEmitter =>
      have resumed := alike.withEmitter alike.emitter.resume
      exact ⟨rfl, { resumed with loop := congrArg EmitterLoop.signal resumed.loop }⟩
  | shutdown => exact ⟨rfl, { alike with loop := congrArg EmitterLoop.shutdown alike.loop }⟩

theorem performAll (alike : tracker.Alike mirror) {moves : List (TrackerMove η)}
    (keep : ∀ move ∈ moves, move.KeepsAnonymity) :
    (mirror.performAll moves).1 = (tracker.performAll moves).1 ∧
      (tracker.performAll moves).2.Alike (mirror.performAll moves).2 := by
  induction moves generalizing tracker mirror with
  | nil => exact ⟨rfl, alike⟩
  | cons move rest inductionHypothesis =>
      obtain ⟨keeps, restKeep⟩ := List.forall_mem_cons.mp keep
      obtain ⟨answer, next⟩ := alike.perform keeps
      obtain ⟨answers, last⟩ := inductionHypothesis next restKeep
      simp only [Tracker.performAll, answer, answers]
      exact ⟨trivial, last⟩

end Alike

end Tracker

/-! ### Launches -/

namespace LaunchPlan

/-- What comes of a launch and of what is done then: the answers, the stored rows, and the requests
that were handed to transports, the latest first. A launch can fail. -/
def run (plan : LaunchPlan η) (store : SettingsStore) (moves : List (TrackerMove η)) :
    Except EmitterError (List (Option Uuid) × List StoredRow × List Request) :=
  (plan.launch store).map fun tracker =>
    let done := tracker.performAll moves
    (done.1, done.2.rows, done.2.outbox.handed)

variable {plan : LaunchPlan η} {store mirror : SettingsStore} {record mirrored : SessionRecord}

theorem started_alike (sessions : plan.settings.sessionContext = true)
    (anonymises : plan.settings.anonymise = true)
    (alike : store.AlikeBut SessionRecord.settingsName mirror)
    (keeps : store.backend.Keeps plan.settings.scope record)
    (mirrorKeeps : mirror.backend.Keeps plan.settings.scope mirrored)
    (sessionIndex : mirrored.sessionIndex = record.sessionIndex) :
    (plan.started store).Alike (plan.started mirror) := by
  have resources : (plan.parts store).resources.Alike (plan.parts mirror).resources := ⟨alike, rfl⟩
  obtain ⟨loaded, after⟩ :=
    Session.load_alike plan.sessionConfig resources keeps mirrorKeeps sessionIndex
  have loads : ∀ store, Tracker.loadSession plan.settings plan.sessionConfig
      (plan.parts store).resources =
        let loaded :=
          Session.load plan.settings.scope plan.sessionConfig (plan.parts store).resources
        (some (loaded.1.setAnonymise true), loaded.2) := by
    intro store
    rw [Tracker.loadSession, if_pos sessions, anonymises]
  rw [Tracker.alike_iff]
  refine started_alikeIn (World.builtIn_alike plan.settings plan.source.isSome) ?_
  simp only [started, prepared, Tracker.prepare, loads]
  exact ⟨after, ⟨_, _, rfl, rfl, loaded⟩, rfl, rfl, rfl, rfl, rfl⟩

/-- Over stores that hold different sessions with the same index, a tracker that hides the user
stores the same rows, answers the same and sends the same, whatever is done with it. -/
theorem anonymous_runs_store_same_rows (moves : List (TrackerMove η))
    (sessions : plan.settings.sessionContext = true)
    (anonymises : plan.settings.anonymise = true)
    (alike : store.AlikeBut SessionRecord.settingsName mirror)
    (keeps : store.backend.Keeps plan.settings.scope record)
    (mirrorKeeps : mirror.backend.Keeps plan.settings.scope mirrored)
    (sessionIndex : mirrored.sessionIndex = record.sessionIndex)
    (keep : ∀ move ∈ moves, move.KeepsAnonymity) :
    plan.run mirror moves = plan.run store moves := by
  have started := started_alike sessions anonymises alike keeps mirrorKeeps sessionIndex
  rw [run, run, launch_eq, launch_eq]
  cases plan.inRuntime with
  | false => rfl
  | true =>
      have launched : Tracker.Alike
          (if plan.settings.install then (plan.started store).trackInstall plan.now
            else plan.started store)
          (if plan.settings.install then (plan.started mirror).trackInstall plan.now
            else plan.started mirror) := by
        split
        · exact started.trackInstall plan.now
        · exact started
      obtain ⟨answers, last⟩ := launched.performAll keep
      simp only [if_true, Except.map, answers, Tracker.rows, last.outbox]

/-- One store knows a user with a session, the other a user who never had one. -/
theorem runs_of_known_and_new_user_store_same_rows :
    let record : SessionRecord := {
      userId := "u1"
      sessionId := "s1"
      previousSessionId := some "s0"
      sessionIndex := 4
      eventIndex := 9 }
    let mirrored : SessionRecord := { userId := "u2", sessionIndex := 4 }
    let storing (record : SessionRecord) : SettingsStore :=
      { backend := .memory ⟨[(SessionRecord.settingsKey "app", record.toJson)]⟩ }
    let plan : LaunchPlan Unit := {
      settings := { scope := "app", anonymise := true }
      queue := { backend := .memory .empty }
      uuids := ⟨fun n => ⟨n⟩, 0⟩
      host := ()
      now := 5 }
    let moves : List (TrackerMove Unit) :=
      [.track (.foreground 1) 6, .startNewSession, .setAnonymise true, .track (.background 1) 7]
    (storing record).AlikeBut SessionRecord.settingsName (storing mirrored) ∧
      (storing record).backend.Keeps "app" record ∧
      (storing mirrored).backend.Keeps "app" mirrored ∧
      (∀ move ∈ moves, move.KeepsAnonymity) ∧
      plan.run (storing mirrored) moves = plan.run (storing record) moves ∧
      (plan.run (storing record) moves).toOption.map (fun done => done.2.1.length) = some 3 := by
  intro record mirrored storing plan moves
  have alike : (storing record).AlikeBut SessionRecord.settingsName (storing mirrored) := by
    refine ⟨⟨rfl, Iff.rfl, fun key isOther => ?_⟩, rfl, rfl⟩
    have notSession : SessionRecord.settingsKey "app" ≠ key := fun same => isOther (same ▸ rfl)
    simp only [storing, SettingsBackend.recordAt?, Entries.get?, if_neg notSession]
  have keeps : (storing record).backend.Keeps "app" record := ⟨_, rfl, by decide +kernel⟩
  have mirrorKeeps : (storing mirrored).backend.Keeps "app" mirrored := ⟨_, rfl, by decide +kernel⟩
  have keep : ∀ move ∈ moves, move.KeepsAnonymity := by
    simp [moves, TrackerMove.KeepsAnonymity]
  exact ⟨alike, keeps, mirrorKeeps, keep,
    anonymous_runs_store_same_rows moves rfl rfl alike keeps mirrorKeeps rfl keep,
    by decide +kernel⟩

end LaunchPlan

end Telemetry

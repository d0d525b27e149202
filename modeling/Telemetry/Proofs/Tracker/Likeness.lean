import Telemetry.Proofs.State.Alike
import Telemetry.Proofs.Tracker.Launches

/-!
Contract: trackers whose machines and worlds are alike go on alike.

Owns:
- which likenesses of worlds trackers carry on: new identifiers are the same, and signals make no
  difference to it;
- trackers that are alike in such a way and the same otherwise;
- that an event is tracked by both or by none, with the same payload, and that the event of a first
  launch is so too if the calls for it are answered the same;
- that built-in machines act alike if that of the session and that of the platform do.

Does not own: in which way worlds are alike, and which machines act alike then.
-/

namespace Telemetry

variable {η : Type}

/-- Worlds stay alike when both draw an identifier, which is the same, and when the same signal is
published in both. -/
structure Likeness.CarriesOn (likeness : Likeness (World η) (World η)) : Prop where
  draw : ∀ {world parallel}, likeness.worlds world parallel →
    parallel.resources.draw.1 = world.resources.draw.1 ∧
      likeness.worlds { world with resources := world.resources.draw.2 }
        { parallel with resources := parallel.resources.draw.2 }
  publish : ∀ {world parallel} notification, likeness.worlds world parallel →
    likeness.worlds { world with resources := world.resources.publish notification }
      { parallel with resources := parallel.resources.publish notification }

namespace World

variable {likeness : Likeness (World η) (World η)}

/-- A machine that leaves the world as it is acts alike if states of its kind are the same. -/
theorem alike_of_still {machine : Machine (World η)}
    (sameStates : ∀ state mirrored, likeness.states machine.kind state mirrored ↔ mirrored = state)
    {next : ObservedEvent → Option MachineState → Option MachineState}
    {given : ObservedEvent → Option MachineState → Option (List Entity)}
    (transition : machine.transition = fun event state world => (next event state, world))
    (entities : machine.entities = fun event state world => (given event state, world))
    (filter : machine.filter = fun _ _ world => (none, world))
    (afterTrack : machine.afterTrack = fun _ world => world) :
    machine.Alike likeness machine := by
  constructor
  case identifier => rfl
  case kind => rfl
  case subscriptions => rfl
  case transition =>
    intro state mirrored world parallel event same alike
    obtain rfl := (sameStates state mirrored).mp same
    rw [sameStates, transition]
    exact ⟨rfl, alike⟩
  case entities =>
    intro state mirrored world parallel event same alike
    obtain rfl := (sameStates state mirrored).mp same
    rw [entities]
    exact ⟨rfl, alike⟩
  case payloadValues =>
    intro state mirrored event same
    rw [(sameStates state mirrored).mp same]
  case filter =>
    intro state mirrored world parallel event same alike
    rw [filter]
    exact ⟨rfl, alike⟩
  case afterTrack =>
    intro world parallel event alike
    rw [afterTrack]
    exact alike

/-- The platform's machine acts alike if its entity is the same and leaves worlds alike. -/
theorem platformMachine_alikeIn
    (entity : ∀ {world parallel}, likeness.worlds world parallel →
      parallel.platformEntity.1 = world.platformEntity.1 ∧
        likeness.worlds world.platformEntity.2 parallel.platformEntity.2) :
    (platformMachine η).Alike likeness (platformMachine η) where
  identifier := rfl
  kind := rfl
  subscriptions := rfl
  transition := fun _ same alike => ⟨same, alike⟩
  entities := fun _ _ alike => by
    obtain ⟨same, after⟩ := entity alike
    exact ⟨congrArg (Option.map fun entity => [entity]) same, after⟩
  payloadValues := fun _ _ => rfl
  filter := fun _ _ alike => ⟨rfl, alike⟩
  afterTrack := fun _ alike => alike

/-- Of the built-in machines those of the session and of the platform see the world. -/
theorem builtIn_alikeIn (session : (sessionMachine η).Alike likeness (sessionMachine η))
    (platform : (platformMachine η).Alike likeness (platformMachine η))
    (sameStates : ∀ kind ≠ MachineKind.session, ∀ state mirrored,
      likeness.states kind state mirrored ↔ mirrored = state)
    (settings : TrackerSettings) (hasSource : Bool) :
    ∀ machine ∈ Tracker.builtIn (η := η) settings hasSource,
      machine.Alike likeness machine := by
  intro machine member
  have origin : Origin (fun _ => False) machine :=
    Tracker.builtIn_origin settings hasSource machine member
  cases origin with
  | session => exact session
  | lifecycle => exact alike_of_still (sameStates _ nofun) rfl rfl rfl rfl
  | deepLink => exact alike_of_still (sameStates _ nofun) rfl rfl rfl rfl
  | platform => exact platform
  | host machine isHosted => exact isHosted.elim

end World

namespace Tracker

/-- Two trackers with machines and worlds that are alike, and all else the same. -/
structure AlikeIn (likeness : Likeness (World η) (World η)) (tracker mirror : Tracker η) :
    Prop where
  settings : mirror.settings = tracker.settings
  outbox : mirror.outbox = tracker.outbox
  loop : mirror.loop = tracker.loop
  tracking : mirror.tracking = tracker.tracking
  subject : mirror.subject = tracker.subject
  gdpr : mirror.gdpr = tracker.gdpr
  managers : ∃ kindOf, tracker.manager.Alike likeness kindOf mirror.manager
  worlds : likeness.worlds tracker.world mirror.world

/-- Asking machines notes nothing, so a snapshot is the latest until the next event. -/
theorem enrich_seen (tracker : Tracker η) (event : ObservedEvent) :
    (tracker.enrich event).2.manager.current = (tracker.enrich event).1.seen := by
  have valued := Manager.questions_addPayloadValues
    (tracker.manager.snapshot tracker.world event).2.1
    (tracker.manager.snapshot tracker.world event).2.2 event
    (tracker.manager.snapshot tracker.world event).1 event.data
  have given := valued.trans (Manager.questions_entities _ _ event
    (tracker.manager.snapshot tracker.world event).1)
  exact given.frame.2.1

namespace AlikeIn

variable {likeness : Likeness (World η) (World η)} {tracker mirror : Tracker η}

theorem installKey (alike : tracker.AlikeIn likeness mirror) :
    mirror.installKey = tracker.installKey := by
  rw [Tracker.installKey, Tracker.installKey, alike.settings]

theorem enrich (alike : tracker.AlikeIn likeness mirror) (event : ObservedEvent) :
    (mirror.enrich event).1 = (tracker.enrich event).1 ∧
      (tracker.enrich event).2.AlikeIn likeness (mirror.enrich event).2 := by
  obtain ⟨_, managers⟩ := alike.managers
  obtain ⟨seen, ⟨⟨kindOf, noted⟩, worlds⟩⟩ := managers.snapshot alike.worlds event
  have fits : Manager.Fits likeness kindOf _
      (tracker.manager.snapshot tracker.world event).1 := noted.fits
  have values := noted.addPayloadValues worlds event fits event.data
  have sameMachines := (Manager.questions_addPayloadValues
    (tracker.manager.snapshot tracker.world event).2.1
    (tracker.manager.snapshot tracker.world event).2.2 event
    (tracker.manager.snapshot tracker.world event).1 event.data).frame.1
  have given := values.managers.entities values.worlds event (sameMachines ▸ fits)
  have own : mirror.ownEntities event = tracker.ownEntities event := by
    rw [ownEntities, ownEntities, alike.gdpr]
  simp only [enrich_eq, seen, values.answers, given.answers, own]
  exact ⟨trivial, { alike with managers := ⟨kindOf, given.managers⟩, worlds := given.worlds }⟩

theorem accepts (alike : tracker.AlikeIn likeness mirror) {enriched : Enriched}
    (isCurrent : tracker.manager.current = enriched.seen) :
    (mirror.accepts enriched).1 = (tracker.accepts enriched).1 ∧
      (tracker.accepts enriched).2.AlikeIn likeness (mirror.accepts enriched).2 := by
  obtain ⟨kindOf, managers⟩ := alike.managers
  have votes := managers.accepts alike.worlds enriched.event (isCurrent ▸ managers.fits)
  exact ⟨votes.answers,
    { alike with managers := ⟨kindOf, votes.managers⟩, worlds := votes.worlds }⟩

section CarriesOn

variable (carriesOn : likeness.CarriesOn)

include carriesOn

theorem publish (alike : tracker.AlikeIn likeness mirror) (notification : Notification) :
    (tracker.publish notification).AlikeIn likeness (mirror.publish notification) :=
  { alike with worlds := carriesOn.publish notification alike.worlds }

theorem identify (alike : tracker.AlikeIn likeness mirror) (event : Event) :
    (mirror.identify event).1 = (tracker.identify event).1 ∧
      (tracker.identify event).2.AlikeIn likeness (mirror.identify event).2 := by
  unfold Tracker.identify
  split
  · exact ⟨rfl, alike⟩
  · obtain ⟨same, drawn⟩ := carriesOn.draw alike.worlds
    exact ⟨same, { alike with worlds := drawn }⟩

theorem enqueue (alike : tracker.AlikeIn likeness mirror) (enriched : Enriched) (now : Int) :
    (mirror.enqueue enriched now).1 = (tracker.enqueue enriched now).1 ∧
      (tracker.enqueue enriched now).2.AlikeIn likeness (mirror.enqueue enriched now).2 := by
  obtain ⟨kindOf, managers⟩ := alike.managers
  have built : mirror.payloadOf enriched = tracker.payloadOf enriched := by
    rw [payloadOf, payloadOf, alike.settings, alike.subject]
  simp only [Tracker.enqueue, alike.outbox, built]
  split
  · refine ⟨rfl, publish carriesOn ?_ _⟩
    exact { alike with outbox := rfl }
  · refine ⟨rfl, publish carriesOn ?_ _⟩
    exact { alike with
      outbox := rfl
      worlds := managers.afterTrack alike.worlds enriched.event
      loop := congrArg EmitterLoop.signal alike.loop }

/-- Both trackers build the same payload of an event, so that their queues take the same row. -/
theorem track (alike : tracker.AlikeIn likeness mirror) (event : Event) (now : Int) :
    (mirror.track event now).1 = (tracker.track event now).1 ∧
      (tracker.track event now).2.AlikeIn likeness (mirror.track event now).2 := by
  unfold Tracker.track
  rw [alike.tracking]
  split
  · obtain ⟨sameId, identified⟩ := alike.identify carriesOn event
    obtain ⟨sameEnriched, enriched⟩ :=
      identified.enrich (.ofEvent event (tracker.identify event).1 now)
    obtain ⟨sameVotes, voted⟩ := enriched.accepts (enrich_seen _ _)
    simp only [sameId, sameEnriched, sameVotes]
    split
    · obtain ⟨sameAnswer, queued⟩ := voted.enqueue carriesOn
        ((tracker.identify event).2.enrich (.ofEvent event (tracker.identify event).1 now)).1 now
      simp only [sameAnswer]
      exact ⟨trivial, queued⟩
    · exact ⟨rfl, voted.publish carriesOn _⟩
  · exact ⟨rfl, alike⟩

/-! ### The event of a first launch -/

theorem reportInstall (alike : tracker.AlikeIn likeness mirror) (now : Int) :
    (tracker.reportInstall now).AlikeIn likeness (mirror.reportInstall now) := by
  obtain ⟨answers, after⟩ := alike.track carriesOn (installEvent now) now
  unfold Tracker.reportInstall
  generalize tracker.track (installEvent now) now = tracked,
    mirror.track (installEvent now) now = mirrored at answers after
  obtain ⟨answer, last⟩ := tracked
  obtain ⟨mirrorAnswer, mirrorLast⟩ := mirrored
  obtain rfl : answer = mirrorAnswer := answers.symm
  cases answer with
  | none => exact after
  | some id => exact after.publish carriesOn _

/-- A launch goes on alike if the record of a first launch is looked up and written alike. -/
theorem trackInstall {now : Int} (alike : tracker.AlikeIn likeness mirror)
    (found : mirror.lookedUp.1 = tracker.lookedUp.1)
    (looked : likeness.worlds (tracker.withResources tracker.lookedUp.2).world
      (mirror.withResources mirror.lookedUp.2).world)
    (outcome : (mirror.noted now).1 = (tracker.noted now).1)
    (noted : likeness.worlds (tracker.recorded now).world (mirror.recorded now).world) :
    (tracker.trackInstall now).AlikeIn likeness (mirror.trackInstall now) := by
  by_cases unrecorded : tracker.lookedUp.1 = .ok none
  · have recorded : (tracker.recorded now).AlikeIn likeness (mirror.recorded now) :=
      { alike with worlds := noted }
    rw [trackInstall_of_unrecorded unrecorded,
      trackInstall_of_unrecorded (found.trans unrecorded), outcome]
    split
    · exact recorded.reportInstall carriesOn now
    · exact recorded
  · rw [trackInstall_of_found unrecorded, trackInstall_of_found (found ▸ unrecorded)]
    exact { alike with worlds := looked }

end CarriesOn

end AlikeIn

end Tracker

namespace LaunchPlan

/-- Until the event of a first launch, two launches of a plan differ in their worlds alone. -/
theorem started_alikeIn {likeness : Likeness (World η) (World η)} {plan : LaunchPlan η}
    {store mirror : SettingsStore}
    (machines : ∀ machine ∈ Tracker.builtIn (η := η) plan.settings plan.source.isSome,
      machine.Alike likeness machine)
    (worlds : likeness.worlds (plan.started store).world (plan.started mirror).world) :
    (plan.started store).AlikeIn likeness (plan.started mirror) := by
  constructor
  case settings => rfl
  case outbox => rfl
  case loop => rfl
  case tracking => rfl
  case subject => rfl
  case gdpr => rfl
  case managers =>
    have areAlike : List.Forall₂ (Machine.Alike likeness) _ _ := List.forall₂_same.mpr machines
    refine ⟨fun _ => .session, List.rel_foldl ?_ (Manager.alike_empty _ _) areAlike⟩
    exact fun _ _ managers _ _ machine => managers.add machine
  case worlds => exact worlds

end LaunchPlan

end Telemetry

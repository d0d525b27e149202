import Telemetry.Proofs.Delivery.Phases
import Telemetry.Proofs.Queue.Agreement
import Telemetry.Proofs.Queue.Calls
import Telemetry.Proofs.Tracker.Machines
import Telemetry.Proofs.Tracker.Payload

/-!
Contract: tracking an event has one outcome, and leaves nothing of another.

Owns:
- the trackers that a host can come to;
- what is known of an event before its outcome: its identifier, the votes, and whether the
  queue takes it;
- the outcome of one call, and the rows that a series of calls appends.

Does not own: what an emitter does to the rows.
-/

namespace Telemetry

variable {η : Type}

/-- What a host does with a tracker, and what happens around it: the device's properties,
the clock and the host's own part change. -/
inductive TrackerMove (η : Type) where
  | track (event : Event) (now : Int)
  | trackMessage (message : Json) (now : Int)
  | setTracking (on : Bool)
  | setSubject (subject : Option Subject)
  | setGdpr (gdpr : Option GdprContext)
  | addMachine (machine : Machine η)
  | removeMachine (identifier : String)
  | startNewSession
  | setAnonymise (on : Bool)
  | elsewhere (source : PropertySource) (elapsed : Nat) (change : η → η)
  | drain (transport : Transport) (clock : Time.Clock)
  | pauseEmitter
  | resumeEmitter
  | shutdown

/-- The emitter removes no row. -/
def TrackerMove.KeepsRows : TrackerMove η → Prop
  | .drain _ _ => False
  | _ => True

namespace Tracker

/-- One move. The answer is the identifier of an event that was queued. -/
def perform (tracker : Tracker η) : TrackerMove η → Option Uuid × Tracker η
  | .track event now => tracker.track event now
  | .trackMessage message now => tracker.trackMessage message now
  | .setTracking on => (none, tracker.setTracking on)
  | .setSubject subject => (none, tracker.setSubject subject)
  | .setGdpr gdpr => (none, tracker.setGdpr gdpr)
  | .addMachine machine => (none, tracker.addMachine machine)
  | .removeMachine identifier => (none, (tracker.removeMachine identifier).2)
  | .startNewSession => (none, tracker.startNewSession)
  | .setAnonymise on => (none, tracker.setAnonymise on)
  | .elsewhere source elapsed change =>
    (none, { tracker with world := { tracker.world with
      source := source
      elapsed := elapsed
      host := change tracker.world.host } })
  | .drain transport clock => (none, (tracker.drain transport clock).2)
  | .pauseEmitter => (none, tracker.pauseEmitter)
  | .resumeEmitter => (none, tracker.resumeEmitter)
  | .shutdown => (none, tracker.shutdown)

/-- The answers to a series of moves, and the tracker after it. -/
def performAll (tracker : Tracker η) : List (TrackerMove η) → List (Option Uuid) × Tracker η
  | [] => ([], tracker)
  | move :: rest =>
    let (answer, next) := tracker.perform move
    let (answers, last) := next.performAll rest
    (answer :: answers, last)

/-- The trackers that a host can come to, with machines of some sort of its own. -/
inductive Reachable (hosted : Machine η → Prop) : Tracker η → Prop where
  | launched {settings sessionConfig deliveryConfig parts inRuntime now tracker} :
      launch settings sessionConfig deliveryConfig parts inRuntime now = .ok tracker →
        Reachable hosted tracker
  | moved {tracker} (move : TrackerMove η) :
      Reachable hosted tracker → (∀ machine, move = .addMachine machine → hosted machine) →
        Reachable hosted (tracker.perform move).2

/-! ### Before the outcome -/

/-- The identifier that an event is tracked under: its own, or the next new one. -/
def idOf (tracker : Tracker η) (event : Event) : Uuid :=
  event.id.getD tracker.world.resources.uuids.next

/-- The event as machines see it. -/
def observed (tracker : Tracker η) (event : Event) (now : Int) : ObservedEvent :=
  .ofEvent event (tracker.idOf event) now

/-- The event with all that is added to it, and the tracker then. -/
def enriched (tracker : Tracker η) (event : Event) (now : Int) : Enriched × Tracker η :=
  (tracker.identify event).2.enrich (tracker.observed event now)

/-- The votes of all machines that are subscribed to vote on the event. -/
def votes (tracker : Tracker η) (event : Event) (now : Int) : List (Option Bool) :=
  let (enriched, asked) := tracker.enriched event now
  Manager.castVotes enriched.event enriched.seen
    (asked.manager.concerned Subscriptions.filter enriched.event) asked.manager asked.world

/-- The tracker after the votes. -/
def voted (tracker : Tracker η) (event : Event) (now : Int) : Tracker η :=
  ((tracker.enriched event now).2.accepts (tracker.enriched event now).1).2

/-- The payload of the event. -/
def built (tracker : Tracker η) (event : Event) (now : Int) : Payload :=
  (tracker.voted event now).payloadOf (tracker.enriched event now).1

/-- The queue takes the event's payload. -/
def Stores (tracker : Tracker η) (event : Event) (now : Int) : Prop :=
  ∃ row, (tracker.outbox.queue.insert (tracker.built event now) now).1 = .ok row

/-- The rows of the tracker's queue. -/
def rows (tracker : Tracker η) : List StoredRow := tracker.outbox.queue.backend.contents

theorem identify_fst (tracker : Tracker η) (event : Event) :
    (tracker.identify event).1 = tracker.idOf event := by
  unfold identify idOf
  split
  · next own => rw [own, Option.getD_some]
  · next absent => rw [absent, Option.getD_none]; rfl

/-- Tracking asks the machines, and then goes on with the votes. -/
theorem track_of_tracking {tracker : Tracker η} (on : tracker.tracking = true) (event : Event)
    (now : Int) :
    tracker.track event now =
      if (tracker.enriched event now).2.accepts (tracker.enriched event now).1 |>.1 then
        let (queued, after) :=
          (tracker.voted event now).enqueue (tracker.enriched event now).1 now
        (if queued then some (tracker.idOf event) else none, after)
      else
        (none, (tracker.voted event now).publish (.eventFiltered (tracker.idOf event))) := by
  simp only [track, if_pos on, identify_fst]
  rfl

theorem enrich_eq (tracker : Tracker η) (event : ObservedEvent) :
    tracker.enrich event =
      let noted := tracker.manager.snapshot tracker.world event
      let valued := noted.2.1.addPayloadValues noted.2.2 event noted.1 event.data
      let given := valued.2.1.entities valued.2.2 event noted.1
      (⟨event, noted.1, valued.1.2, tracker.ownEntities event ++ given.1⟩,
        { tracker with manager := given.2.1, world := given.2.2 }) :=
  rfl

theorem accepts_fst (tracker : Tracker η) (enriched : Enriched) :
    (tracker.accepts enriched).1 =
      (tracker.manager.accepts tracker.world enriched.event enriched.seen).1 := rfl

theorem accepts_iff (tracker : Tracker η) (event : Event) (now : Int) :
    ((tracker.enriched event now).2.accepts (tracker.enriched event now).1).1 = true ↔
      some false ∉ tracker.votes event now := by
  rw [accepts_fst, Manager.accepts, Manager.votesOf_iff, votes]

/-- What is left when machines were asked: they moved the world, and the outbox is as it
was. -/
structure Asks (hosted : Machine η → Prop) (moves : World η → World η → Prop)
    (before after : Tracker η) : Prop where
  asked : Manager.Asked (World.Origin hosted) moves before.manager before.world after.manager
    after.world
  outbox : after.outbox = before.outbox

section Asking

variable {hosted : Machine η → Prop} {moves : World η → World η → Prop}
  (cumulative : Cumulative moves)
  (respects : ∀ machine, World.Origin hosted machine → machine.Respects moves)
  (draws : ∀ world : World η, moves world { world with resources := world.resources.draw.2 })

include cumulative

theorem Asks.trans {first second third : Tracker η} (left : Asks hosted moves first second)
    (right : Asks hosted moves second third) : Asks hosted moves first third :=
  ⟨left.asked.trans cumulative right.asked, right.outbox.trans left.outbox⟩

include respects

theorem enrich_asks {tracker : Tracker η}
    (knows : tracker.manager.Knows (World.Origin hosted)) (event : ObservedEvent) :
    Asks hosted moves tracker (tracker.enrich event).2 := by
  have noted := knows.snapshot cumulative respects tracker.world event
  have valued := noted.trans cumulative (noted.knows.addPayloadValues cumulative respects _ event
    (tracker.manager.snapshot tracker.world event).1 event.data)
  have given := valued.trans cumulative (valued.knows.entities cumulative respects _ event
    (tracker.manager.snapshot tracker.world event).1)
  exact ⟨given, rfl⟩

theorem accepts_asks {tracker : Tracker η}
    (knows : tracker.manager.Knows (World.Origin hosted)) (enriched : Enriched) :
    Asks hosted moves tracker (tracker.accepts enriched).2 :=
  ⟨knows.accepts cumulative respects tracker.world enriched.event enriched.seen, rfl⟩

include draws

theorem enriched_asks {tracker : Tracker η}
    (knows : tracker.manager.Knows (World.Origin hosted)) (event : Event) (now : Int) :
    Asks hosted moves tracker (tracker.enriched event now).2 := by
  have identified : Asks hosted moves tracker (tracker.identify event).2 := by
    unfold identify
    split
    · exact ⟨knows.asked_nothing cumulative _, rfl⟩
    · exact ⟨⟨knows, rfl, draws tracker.world⟩, rfl⟩
  exact identified.trans cumulative
    (enrich_asks cumulative respects identified.asked.knows (tracker.observed event now))

theorem voted_asks {tracker : Tracker η}
    (knows : tracker.manager.Knows (World.Origin hosted)) (event : Event) (now : Int) :
    Asks hosted moves tracker (tracker.voted event now) := by
  have enriched := enriched_asks cumulative respects draws knows event now
  exact enriched.trans cumulative (accepts_asks cumulative respects enriched.asked.knows _)

end Asking

/-! ### Reachable trackers -/

variable {hosted : Machine η → Prop} {tracker : Tracker η}

theorem voted_announces (knows : tracker.manager.Knows (World.Origin hosted)) (event : Event)
    (now : Int) : Asks hosted World.Announces tracker (tracker.voted event now) :=
  voted_asks World.announces_cumulative (fun _ origin => origin.announces)
    (fun _ => World.announces_of_bus rfl) knows event now

theorem enqueue_manager (tracker : Tracker η) (enriched : Enriched) (now : Int) :
    (tracker.enqueue enriched now).2.manager = tracker.manager := by
  unfold enqueue
  split <;> rfl

theorem publish_manager (tracker : Tracker η) (notification : Notification) :
    (tracker.publish notification).manager = tracker.manager := rfl

theorem track_knows (knows : tracker.manager.Knows (World.Origin hosted)) (event : Event)
    (now : Int) : (tracker.track event now).2.manager.Knows (World.Origin hosted) := by
  cases on : tracker.tracking with
  | false =>
      rw [track, on]
      exact knows
  | true =>
      have voted := (voted_announces knows event now).asked.knows
      rw [track_of_tracking on]
      split
      · rw [enqueue_manager]
        exact voted
      · rw [publish_manager]
        exact voted

theorem trackInstall_knows (knows : tracker.manager.Knows (World.Origin hosted)) (now : Int) :
    (tracker.trackInstall now).manager.Knows (World.Origin hosted) := by
  have tracked (resources : Resources) : ((tracker.withResources resources).track
      (installEvent now) now).2.manager.Knows (World.Origin hosted) := by
    have same : (tracker.withResources resources).manager.Knows (World.Origin hosted) := knows
    exact track_knows same _ now
  unfold trackInstall
  simp only
  split
  · split
    · next resources _ =>
      have after := tracked resources
      split
      · next isTracked =>
        rw [isTracked] at after
        exact after
      · next isDropped =>
        rw [isDropped] at after
        exact after
    · exact knows
  · exact knows

theorem builtIn_origin (settings : TrackerSettings) (hasSource : Bool) :
    ∀ machine ∈ builtIn (η := η) settings hasSource, World.Origin hosted machine := by
  intro machine member
  have optional : ∀ {wanted : Bool} {one : Machine (World η)},
      machine ∈ (if wanted then [one] else []) → machine = one := by
    intro wanted one isMember
    split at isMember
    · exact List.mem_singleton.mp isMember
    · cases isMember
  simp only [builtIn, List.mem_append, or_assoc] at member
  rcases member with session | lifecycle | deepLink | platform
  · exact optional session ▸ .session
  · exact optional lifecycle ▸ .lifecycle
  · exact optional deepLink ▸ .deepLink
  · exact optional platform ▸ .platform

theorem addAll_knows {machines : List (Machine (World η))}
    (origins : ∀ machine ∈ machines, World.Origin hosted machine)
    {manager : Manager (World η)} (knows : manager.Knows (World.Origin hosted)) :
    (machines.foldl Manager.add manager).Knows (World.Origin hosted) := by
  induction machines generalizing manager with
  | nil => exact knows
  | cons machine rest inductionHypothesis =>
      exact inductionHypothesis (fun other member => origins other (List.mem_cons_of_mem _ member))
        (knows.add (origins machine (by simp)))

theorem prepare_knows (settings : TrackerSettings) (sessionConfig : SessionConfig)
    (deliveryConfig : DeliveryConfig) (parts : Parts η) :
    (prepare settings sessionConfig deliveryConfig parts).manager.Knows (World.Origin hosted) := by
  have nothing : ({} : Manager (World η)).Knows (World.Origin hosted) :=
    ⟨fun _ member => absurd member List.not_mem_nil, nofun⟩
  exact addAll_knows (builtIn_origin settings parts.source.isSome) nothing

theorem launch_knows {settings : TrackerSettings} {sessionConfig : SessionConfig}
    {deliveryConfig : DeliveryConfig} {parts : Parts η} {inRuntime : Bool} {now : Int}
    (launched : launch settings sessionConfig deliveryConfig parts inRuntime now = .ok tracker) :
    tracker.manager.Knows (World.Origin hosted) := by
  have prepared : ∀ loop, { prepare settings sessionConfig deliveryConfig parts with
      loop := loop }.manager.Knows (World.Origin hosted) :=
    fun _ => prepare_knows settings sessionConfig deliveryConfig parts
  unfold launch at launched
  cases started : (prepare settings sessionConfig deliveryConfig parts).loop.start inRuntime with
  | error cause => 
      simp only [started] at launched
      cases launched
  | ok loop =>
      simp only [started, Except.map, Except.ok.injEq] at launched
      subst launched
      split
      · exact trackInstall_knows (prepared loop) now
      · exact prepared loop

theorem perform_knows (knows : tracker.manager.Knows (World.Origin hosted))
    {move : TrackerMove η} (areHosted : ∀ machine, move = .addMachine machine → hosted machine) :
    (tracker.perform move).2.manager.Knows (World.Origin hosted) := by
  cases move with
  | track event now => exact track_knows knows event now
  | trackMessage message now =>
      rw [perform, trackMessage]
      split
      · exact track_knows knows _ now
      · exact knows
  | addMachine machine => exact knows.add (.host machine (areHosted machine rfl))
  | removeMachine identifier => exact knows.remove identifier
  | setTracking on => exact knows
  | setSubject subject => exact knows
  | setGdpr gdpr => exact knows
  | startNewSession => exact knows
  | setAnonymise on => exact knows
  | elsewhere source elapsed change => exact knows
  | drain transport clock => exact knows
  | pauseEmitter => exact knows
  | resumeEmitter => exact knows
  | shutdown => exact knows

/-- A tracker that a host can come to has built-in machines and the host's. -/
theorem Reachable.knows (reachable : Reachable hosted tracker) :
    tracker.manager.Knows (World.Origin hosted) := by
  induction reachable with
  | launched isLaunched => exact launch_knows isLaunched
  | moved move _ areHosted inductionHypothesis =>
      exact perform_knows inductionHypothesis areHosted

/-! ### The outcome -/

/-- One signal was published, after starts of sessions. -/
def Reports (notification : Notification) (before after : Tracker η) : Prop :=
  ∃ starts : List Notification, (∀ start ∈ starts, start.StartsSession) ∧
    after.world.resources.bus.published =
      notification :: (starts ++ before.world.resources.bus.published)

/-- The identifier that the event of a row carries. -/
def eventId? (row : StoredRow) : Option String :=
  row.event?.bind fun event => event.payload.get? Keys.eventId

/-- What one call of tracking does, with machines of some sort of the host's. -/
structure Outcome (hosted : Machine η → Prop) (before : Tracker η) (event : Event) (now : Int)
    (answer : Option Uuid) (after : Tracker η) : Prop where
  /-- The answer is the event's identifier, and there is one if the event is tracked. -/
  answered : ∀ id, answer = some id ↔ id = before.idOf event ∧ before.tracking = true ∧
    some false ∉ before.votes event now ∧ before.Stores event now
  /-- A tracked event is one row more, and is reported. -/
  tracked : answer.isSome → Reports (.eventTracked (before.idOf event)) before after ∧
    ∃ row, after.rows = before.rows ++ [row] ∧ row.insertedAt = now ∧
      eventId? row = some (before.idOf event).text
  /-- Any other leaves the rows as they are. -/
  dropped : answer = none → after.outbox.queue.backend = before.outbox.queue.backend
  rejected : before.tracking = true → some false ∈ before.votes event now →
    Reports (.eventFiltered (before.idOf event)) before after
  failed : before.tracking = true → some false ∉ before.votes event now →
    ¬ before.Stores event now →
      ∃ cause, Reports (storeFailure (before.idOf event) cause) before after
  paused : before.tracking = false → after = before
  /-- After the votes only the hooks of the machines that are subscribed to tracked events
  act on the host's part, each once and in order, and none if the event is not tracked. -/
  told : before.tracking = true → after.world.host =
    (if answer.isSome then
      (before.manager.concerned Subscriptions.afterTrack (before.observed event now)).foldl
        (fun world machine => machine.afterTrack (before.observed event now) world)
        (before.voted event now).world
    else
      (before.voted event now).world).host
  /-- So a log of hooks, if all machines of the host keep one, has these calls more. -/
  logged : ∀ log : HookLog η, (∀ machine, hosted machine → machine.LogsHook log) →
    log after.world.host = log before.world.host ++
      if answer.isSome then
        (before.manager.concerned Subscriptions.afterTrack (before.observed event now)).map
          fun machine => (machine.identifier, before.observed event now)
      else
        []

theorem reports_of_announces {before voted : Tracker η}
    (announces : before.world.Announces voted.world) (notification : Notification) :
    Reports notification before (voted.publish notification) := by
  obtain ⟨starts, areStarts, published⟩ := announces
  exact ⟨starts, areStarts, congrArg (notification :: ·) published⟩

theorem enqueue_of_ok {enriched : Enriched} {now : Int} {row : RowId} {queue : EventQueue}
    (inserted : tracker.outbox.queue.insert (tracker.payloadOf enriched) now =
      (.ok row, queue)) :
    tracker.enqueue enriched now =
      (true, { tracker with
        outbox := { tracker.outbox with queue := queue }
        world := tracker.manager.afterTrack tracker.world enriched.event
        loop := tracker.loop.signal }.publish (.eventTracked enriched.event.id)) := by
  rw [enqueue, inserted]

theorem enqueue_of_error {enriched : Enriched} {now : Int} {cause : QueueError}
    {queue : EventQueue}
    (refused : tracker.outbox.queue.insert (tracker.payloadOf enriched) now =
      (.error cause, queue)) :
    tracker.enqueue enriched now =
      (false, { tracker with outbox := { tracker.outbox with queue := queue } }.publish
        (storeFailure enriched.event.id cause)) := by
  rw [enqueue, refused]

theorem outcome_of_paused (off : tracker.tracking = false) (event : Event) (now : Int) :
    Outcome hosted tracker event now none tracker := by
  constructor
  case answered => exact fun _ => ⟨nofun, fun ⟨_, on, _⟩ => absurd (off.symm.trans on) nofun⟩
  case tracked => exact nofun
  case dropped => exact fun _ => rfl
  case rejected => exact fun on => absurd (off.symm.trans on) nofun
  case failed => exact fun on => absurd (off.symm.trans on) nofun
  case paused => exact fun _ => rfl
  case told => exact fun on => absurd (off.symm.trans on) nofun
  case logged => exact fun log _ => (List.append_nil _).symm

/-- What is left when all machines voted: nothing but starts of sessions was published, and
no hook was called. -/
structure Polled (hosted : Machine η → Prop) (before voted : Tracker η) : Prop where
  asks : Asks hosted World.Announces before voted
  noHook : ∀ log : HookLog η, (∀ machine, hosted machine → machine.LogsHook log) →
    log voted.world.host = log before.world.host

theorem polled_voted (knows : tracker.manager.Knows (World.Origin hosted)) (event : Event)
    (now : Int) : Polled hosted tracker (tracker.voted event now) where
  asks := voted_announces knows event now
  noHook := fun log logs =>
    (voted_asks (World.sameLog_cumulative log) (fun _ origin => origin.sameLog logs)
      (fun _ => rfl) knows event now).asked.moved

section Outcomes

variable {voted : Tracker η} {event : Event} {now : Int} (on : tracker.tracking = true)
  (isVoted : tracker.voted event now = voted) (polled : Polled hosted tracker voted)

include on isVoted polled

theorem outcome_of_rejected (rejects : some false ∈ tracker.votes event now) :
    Outcome hosted tracker event now none
      (voted.publish (.eventFiltered (tracker.idOf event))) := by
  constructor
  case answered => exact fun _ => ⟨nofun, fun ⟨_, _, accepted, _⟩ => absurd rejects accepted⟩
  case tracked => exact nofun
  case dropped => exact fun _ => congrArg (fun outbox => outbox.queue.backend) polled.asks.outbox
  case rejected => exact fun _ _ => reports_of_announces polled.asks.asked.moved _
  case failed => exact fun _ accepted => absurd rejects accepted
  case paused => exact fun off => absurd (off.symm.trans on) nofun
  case told => intro _; rw [isVoted]; rfl
  case logged => exact fun log logs => (polled.noHook log logs).trans (List.append_nil _).symm

theorem outcome_of_failed (accepted : some false ∉ tracker.votes event now)
    {cause : QueueError} {queue : EventQueue}
    (refused : tracker.outbox.queue.insert (tracker.built event now) now = (.error cause, queue))
    (untouched : queue.backend = tracker.outbox.queue.backend) :
    Outcome hosted tracker event now none
      ({ voted with outbox := { voted.outbox with queue := queue } }.publish
        (storeFailure (tracker.idOf event) cause)) := by
  have notStored : ¬ tracker.Stores event now := by
    rintro ⟨row, stored⟩
    rw [refused] at stored
    cases stored
  constructor
  case answered => exact fun _ => ⟨nofun, fun ⟨_, _, _, stored⟩ => absurd stored notStored⟩
  case tracked => exact nofun
  case dropped => exact fun _ => untouched
  case rejected => exact fun _ rejects => absurd rejects accepted
  case failed => exact fun _ _ _ => ⟨cause, reports_of_announces polled.asks.asked.moved _⟩
  case paused => exact fun off => absurd (off.symm.trans on) nofun
  case told => intro _; rw [isVoted]; rfl
  case logged => exact fun log logs => (polled.noHook log logs).trans (List.append_nil _).symm

theorem outcome_of_queued (accepted : some false ∉ tracker.votes event now)
    {row : RowId} {queue : EventQueue}
    (inserted : tracker.outbox.queue.insert (tracker.built event now) now = (.ok row, queue))
    (contents : queue.backend.contents = tracker.rows ++
      [tracker.outbox.queue.backend.keptAs ⟨row, tracker.built event now, now⟩]) :
    Outcome hosted tracker event now (some (tracker.idOf event))
      ({ voted with
        outbox := { voted.outbox with queue := queue }
        world := voted.manager.afterTrack voted.world (tracker.observed event now)
        loop := voted.loop.signal }.publish (.eventTracked (tracker.idOf event))) := by
  have asked := polled.asks.asked
  constructor
  case answered =>
    intro id
    rw [Option.some.injEq]
    exact ⟨fun same => ⟨same.symm, on, accepted, row, congrArg Prod.fst inserted⟩,
      fun ⟨same, _⟩ => same.symm⟩
  case tracked =>
    intro _
    have hooked := Manager.afterTrack_resources asked.knows voted.world
      (tracker.observed event now)
    refine ⟨?_, _, contents, rfl, ?_⟩
    · obtain ⟨starts, areStarts, published⟩ := asked.moved
      rw [← hooked] at published
      exact ⟨starts, areStarts, congrArg (_ :: ·) published⟩
    · rw [eventId?, QueueBackend.event?_keptAs, Option.bind_some]
      exact Build.get?_payload_eventId _ _ _ _ _
  case dropped => exact nofun
  case rejected => exact fun _ rejects => absurd rejects accepted
  case failed => exact fun _ _ refused => absurd ⟨row, congrArg Prod.fst inserted⟩ refused
  case paused => exact fun off => absurd (off.symm.trans on) nofun
  case told =>
    intro _
    rw [isVoted, Manager.concerned, ← asked.machines]
    rfl
  case logged =>
    intro log logs
    have told := Manager.afterTrack_log logs asked.knows voted.world (tracker.observed event now)
    rw [polled.noHook log logs, Manager.concerned, asked.machines] at told
    exact told

end Outcomes

/-- Every call of tracking has one outcome. -/
theorem track_outcome (knows : tracker.manager.Knows (World.Origin hosted)) (event : Event)
    (now : Int) :
    Outcome hosted tracker event now (tracker.track event now).1
      (tracker.track event now).2 := by
  cases on : tracker.tracking with
  | false =>
      have untouched : tracker.track event now = (none, tracker) := by rw [track, on]; rfl
      rw [untouched]
      exact outcome_of_paused on event now
  | true =>
      have polled := polled_voted knows event now
      -- No machine touches the queue, so it answers as it did before the votes.
      have inserting : (tracker.voted event now).outbox.queue.insert
          ((tracker.voted event now).payloadOf (tracker.enriched event now).1) now =
            tracker.outbox.queue.insert (tracker.built event now) now := by
        rw [polled.asks.outbox, built]
      rw [track_of_tracking on]
      by_cases accepted : some false ∉ tracker.votes event now
      · rw [if_pos ((tracker.accepts_iff event now).mpr accepted)]
        rcases tracker.outbox.queue.insert_cases (tracker.built event now) now with
          ⟨cause, refused⟩ | ⟨backend, extended, _, inserted⟩
        · rw [enqueue_of_error (inserting.trans refused)]
          exact outcome_of_failed on rfl polled accepted refused rfl
        · rw [enqueue_of_ok (inserting.trans inserted)]
          exact outcome_of_queued on rfl polled accepted inserted extended.contents
      · rw [if_neg fun isAccepted => accepted ((tracker.accepts_iff event now).mp isAccepted)]
        exact outcome_of_rejected on rfl polled (not_not.mp accepted)

/-! ### The rows of a run -/

/-- A move tracks an event, drains, pauses the emitter, or leaves the resources and the queue. -/
theorem perform_cases (tracker : Tracker η) (move : TrackerMove η) :
    (∃ event now, tracker.perform move = tracker.track event now) ∨
      (∃ transport clock, move = .drain transport clock) ∨
      move = .pauseEmitter ∨
      (tracker.perform move).1 = none ∧
        (tracker.perform move).2.world.resources = tracker.world.resources ∧
        (tracker.perform move).2.outbox.queue = tracker.outbox.queue := by
  cases move with
  | track event now => exact .inl ⟨event, now, rfl⟩
  | trackMessage message now =>
      rw [perform, trackMessage]
      split
      · exact .inl ⟨_, now, rfl⟩
      · exact .inr (.inr (.inr ⟨rfl, rfl, rfl⟩))
  | drain transport clock => exact .inr (.inl ⟨transport, clock, rfl⟩)
  | pauseEmitter => exact .inr (.inr (.inl rfl))
  | setTracking on => exact .inr (.inr (.inr ⟨rfl, rfl, rfl⟩))
  | setSubject subject => exact .inr (.inr (.inr ⟨rfl, rfl, rfl⟩))
  | setGdpr gdpr => exact .inr (.inr (.inr ⟨rfl, rfl, rfl⟩))
  | addMachine machine => exact .inr (.inr (.inr ⟨rfl, rfl, rfl⟩))
  | removeMachine identifier => exact .inr (.inr (.inr ⟨rfl, rfl, rfl⟩))
  | startNewSession => exact .inr (.inr (.inr ⟨rfl, rfl, rfl⟩))
  | setAnonymise on => exact .inr (.inr (.inr ⟨rfl, rfl, rfl⟩))
  | elsewhere source elapsed change => exact .inr (.inr (.inr ⟨rfl, rfl, rfl⟩))
  | resumeEmitter => exact .inr (.inr (.inr ⟨rfl, rfl, rfl⟩))
  | shutdown => exact .inr (.inr (.inr ⟨rfl, rfl, rfl⟩))

/-- One move appends the row of the event that it tracks, and no other. -/
theorem perform_rows (knows : tracker.manager.Knows (World.Origin hosted))
    {move : TrackerMove η} (keeps : move.KeepsRows) :
    ∃ added, (tracker.perform move).2.rows = tracker.rows ++ added ∧
      added.map eventId? = (tracker.perform move).1.toList.map fun id => some id.text := by
  have nothing (answer : (tracker.perform move).1 = none)
      (same : (tracker.perform move).2.rows = tracker.rows) :
      ∃ added, (tracker.perform move).2.rows = tracker.rows ++ added ∧
        added.map eventId? = (tracker.perform move).1.toList.map fun id => some id.text :=
    ⟨[], by rw [same, List.append_nil], by rw [answer]; rfl⟩
  rcases tracker.perform_cases move with
    ⟨event, now, isTracked⟩ | ⟨transport, now, rfl⟩ | rfl | ⟨answer, _, queue⟩
  · have outcome := track_outcome knows event now
    rw [← isTracked] at outcome
    cases isAnswer : (tracker.perform move).1 with
    | none =>
        rw [← isAnswer]
        exact nothing isAnswer (congrArg QueueBackend.contents (outcome.dropped isAnswer))
    | some id =>
        obtain ⟨_, row, appended, _, carries⟩ := outcome.tracked (by rw [isAnswer]; rfl)
        have isId : id = tracker.idOf event := ((outcome.answered id).mp isAnswer).1
        exact ⟨[row], appended, by rw [List.map_singleton, carries, isId]; rfl⟩
  · exact keeps.elim
  · refine nothing rfl ?_
    exact congrArg (fun queue => queue.backend.contents)
      (tracker.emitter.pause_frame Emitter.callerReason).1
  · exact nothing answer (congrArg (fun queue => queue.backend.contents) queue)

theorem performAll_rows (knows : tracker.manager.Knows (World.Origin hosted))
    {moves : List (TrackerMove η)} (keep : ∀ move ∈ moves, move.KeepsRows)
    (areHosted : ∀ machine, .addMachine machine ∈ moves → hosted machine) :
    ∃ added, (tracker.performAll moves).2.rows = tracker.rows ++ added ∧
      added.map eventId? =
        ((tracker.performAll moves).1.filterMap id).map fun id => some id.text := by
  induction moves generalizing tracker with
  | nil => exact ⟨[], (List.append_nil _).symm, rfl⟩
  | cons move rest inductionHypothesis =>
      -- The rows of the first move, then those of the rest, which start at its tracker.
      obtain ⟨first, appended, firstIds⟩ := perform_rows knows (keep move (by simp))
      have firstHosted : ∀ machine, move = .addMachine machine → hosted machine :=
        fun machine isMove => areHosted machine (by simp [isMove])
      have nextKnows := perform_knows knows firstHosted
      obtain ⟨others, last, otherIds⟩ := inductionHypothesis nextKnows
        (fun other member => keep other (List.mem_cons_of_mem _ member))
        (fun machine member => areHosted machine (List.mem_cons_of_mem _ member))
      refine ⟨first ++ others, ?_, ?_⟩
      · rw [performAll, last, appended, List.append_assoc]
      · rw [performAll, List.map_append, firstIds, otherIds, List.filterMap_cons]
        cases (tracker.perform move).1 <;> rfl

/-- A call of tracking on any tracker that a host can come to has exactly one outcome: the
event is stored as one row under its identifier, told to the subscribed machines and
reported, or the rows stay and it is reported as filtered or as failed, or tracking is off
and nothing happens. So a run without removals stores the accepted events in order. -/
theorem track_has_one_outcome (reachable : Reachable hosted tracker) (event : Event) (now : Int)
    (moves : List (TrackerMove η)) (keep : ∀ move ∈ moves, move.KeepsRows)
    (areHosted : ∀ machine, .addMachine machine ∈ moves → hosted machine) :
    Outcome hosted tracker event now (tracker.track event now).1 (tracker.track event now).2 ∧
      ∃ added, (tracker.performAll moves).2.rows = tracker.rows ++ added ∧
        added.map eventId? =
          ((tracker.performAll moves).1.filterMap id).map fun id => some id.text :=
  ⟨track_outcome reachable.knows event now, performAll_rows reachable.knows keep areHosted⟩

/-- A machine rejects page views, the store fails once, and tracking is off for a while: of
five events the first and the last are stored. -/
theorem track_stores_first_and_last :
    let gate : Machine (List (String × ObservedEvent)) := {
      identifier := "gate"
      kind := .hosted "gate"
      subscriptions := { filter := .all, afterTrack := .all }
      filter := fun event _ log => (some (event.name != EventNames.pageView), log)
      afterTrack := fun event log => log ++ [("gate", event)] }
    let parts : Parts (List (String × ObservedEvent)) := {
      queue := {
        backend := .memory .empty
        refuses := fun call made => call == .insert && made == 1 }
      resources := ⟨{ backend := .memory .empty }, .standard, ⟨fun n => ⟨n⟩, 0⟩⟩
      host := [] }
    let settings : TrackerSettings := { sessionContext := false, install := false }
    let screen := Event.screenView "home" ⟨7⟩ none
    let page : Event := { kind := .pageView { url := "app://home" } }
    let moves : List (TrackerMove (List (String × ObservedEvent))) :=
      [.addMachine gate, .track screen 1, .track page 2, .track screen 3, .setTracking false,
        .track screen 4, .setTracking true, .track { screen with id := some ⟨9⟩ } 5]
    let tracker := { prepare settings {} {} parts with loop := { phase := .starting } }
    Reachable (fun machine => machine.LogsHook id) tracker ∧
      (∀ move ∈ moves, move.KeepsRows) ∧
      (∀ machine, .addMachine machine ∈ moves → machine.LogsHook id) ∧
      (tracker.performAll moves).2.rows.map eventId? =
        [some (Uuid.text ⟨0⟩), some (Uuid.text ⟨9⟩)] := by
  intro gate parts settings screen page moves tracker
  have launched : launch settings {} {} parts true 0 = .ok tracker := rfl
  have reachable : Reachable (fun machine => machine.LogsHook id) tracker := .launched launched
  have keep : ∀ move ∈ moves, move.KeepsRows := by simp [moves, TrackerMove.KeepsRows]
  have areHosted : ∀ machine, .addMachine machine ∈ moves → machine.LogsHook id := by
    intro machine member
    have isGate : machine = gate := by simpa [moves] using member
    subst isGate
    exact ⟨fun _ _ _ => rfl, fun _ _ _ => rfl, fun _ _ _ => rfl, fun _ _ => rfl⟩
  obtain ⟨added, appended, ids⟩ :=
    (track_has_one_outcome reachable screen 6 moves keep areHosted).2
  have answers : (tracker.performAll moves).1.filterMap id = [⟨0⟩, ⟨9⟩] := by decide +kernel
  refine ⟨reachable, keep, areHosted, ?_⟩
  rw [appended, List.map_append, ids, answers]
  rfl

end Tracker

end Telemetry

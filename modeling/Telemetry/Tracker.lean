import Telemetry.Delivery.Timeline
import Telemetry.Event.Message
import Telemetry.State.DeepLink
import Telemetry.State.Lifecycle
import Telemetry.State.Manager
import Telemetry.Tracker.Build
import Telemetry.Tracker.Gdpr
import Telemetry.Tracker.World

/-!
Contract: a tracker, which turns events into queued payloads.

Owns:
- tracking: enrichment by the machines, their votes, the payload, its row, and
  the signals of the outcome;
- launching, with the event of a first launch;
- what a host can switch while the tracker runs.

Does not own: the delivery of rows.
-/

namespace Telemetry

structure Tracker (η : Type) where
  settings : TrackerSettings
  manager : Manager (World η)
  world : World η
  outbox : Outbox
  loop : EmitterLoop := {}
  tracking : Bool := true
  subject : Option Subject := none
  gdpr : Option GdprContext := none

namespace Tracker

variable {η : Type}

/-- The emitter of the tracker, which reports to the tracker's bus. -/
def emitter (tracker : Tracker η) : Emitter :=
  { tracker.outbox with bus := tracker.world.resources.bus }

def withEmitter (tracker : Tracker η) (emitter : Emitter) : Tracker η :=
  { tracker with
    outbox := emitter.toOutbox
    world := { tracker.world with
      resources := { tracker.world.resources with bus := emitter.bus } } }

def publish (tracker : Tracker η) (notification : Notification) : Tracker η :=
  { tracker with
    world := { tracker.world with
      resources := tracker.world.resources.publish notification } }

/-- An event with all that was added to it. -/
structure Enriched where
  event : ObservedEvent
  seen : Snapshot
  fields : Fields
  entities : List Entity

/-- The identifier of an event: its own, or a new one. -/
def identify (tracker : Tracker η) (event : Event) : Uuid × Tracker η :=
  match event.id with
  | some id => (id, tracker)
  | none =>
    let (id, resources) := tracker.world.resources.draw
    (id, { tracker with world := { tracker.world with resources := resources } })

/-- The entities that precede those of machines: the event's own, and the basis
for processing. -/
def ownEntities (tracker : Tracker η) (event : ObservedEvent) : List Entity :=
  event.entities ++ (tracker.gdpr.map GdprContext.entity).toList

/-- Notes the transitions for an event, and adds the machines' values and
entities. -/
def enrich (tracker : Tracker η) (event : ObservedEvent) : Enriched × Tracker η :=
  let (seen, manager, world) := tracker.manager.snapshot tracker.world event
  let ((_, fields), manager, world) :=
    manager.addPayloadValues world event seen event.data
  let (given, manager, world) := manager.entities world event seen
  (⟨event, seen, fields, tracker.ownEntities event ++ given⟩,
    { tracker with manager := manager, world := world })

/-- No machine rejects the event. -/
def accepts (tracker : Tracker η) (enriched : Enriched) : Bool × Tracker η :=
  let (accepted, manager, world) :=
    tracker.manager.accepts tracker.world enriched.event enriched.seen
  (accepted, { tracker with manager := manager, world := world })

def payloadOf (tracker : Tracker η) (enriched : Enriched) : Payload :=
  Build.payload tracker.settings tracker.subject enriched.event enriched.fields
    enriched.entities

def storeFailure (id : Uuid) (cause : QueueError) : Notification :=
  .diagnostic "tracker" ("failed to store event " ++ id.text ++ ": " ++ cause.message)

/-- Queues the payload of an accepted event. If that succeeds the machines are
told, the emitter is woken, and the event is reported as tracked. -/
def enqueue (tracker : Tracker η) (enriched : Enriched) (now : Int) : Bool × Tracker η :=
  let id := enriched.event.id
  match tracker.outbox.queue.insert (tracker.payloadOf enriched) now with
  | (.error cause, queue) =>
    (false,
      { tracker with outbox := { tracker.outbox with queue := queue } }.publish
        (storeFailure id cause))
  | (.ok _, queue) =>
    (true,
      { tracker with
        outbox := { tracker.outbox with queue := queue }
        world := tracker.manager.afterTrack tracker.world enriched.event
        loop := tracker.loop.signal }.publish (.eventTracked id))

/-- Tracks an event at an instant. The answer is its identifier if it was queued. -/
def track (tracker : Tracker η) (event : Event) (now : Int) : Option Uuid × Tracker η :=
  if tracker.tracking then
    let (id, tracker) := tracker.identify event
    let (enriched, tracker) := tracker.enrich (.ofEvent event id now)
    let (accepted, tracker) := tracker.accepts enriched
    if accepted then
      let (queued, tracker) := tracker.enqueue enriched now
      (if queued then some id else none, tracker)
    else
      (none, tracker.publish (.eventFiltered id))
  else
    (none, tracker)

/-- Tracks the event of a message; a refused message changes nothing. -/
def trackMessage (tracker : Tracker η) (message : Json) (now : Int) :
    Option Uuid × Tracker η :=
  match Event.ofMessage message with
  | .ok event => tracker.track event now
  | .error _ => (none, tracker)

/-- The name under which the first launch is recorded. -/
def installName : String := "install"

/-- The record of a first launch. -/
def installRecord (instant : Int) : Json := .object [("timestamp_ms", .integer instant)]

/-- The event of a first launch. -/
def installEvent (instant : Int) : Event :=
  { Event.applicationInstall with trueTimestamp := some instant }

def withResources (tracker : Tracker η) (resources : Resources) : Tracker η :=
  { tracker with world := { tracker.world with resources := resources } }

/-- Tracks the event of a first launch unless one is on record, which may be in
the legacy layout. Without reading and writing the record nothing is tracked. -/
def trackInstall (tracker : Tracker η) (now : Int) : Tracker η :=
  let key : SettingsKey := ⟨tracker.settings.scope, installName⟩
  let (_, resources) := tracker.world.resources.migrate key some
  match resources.read key with
  | (.ok none, resources) =>
    match resources.write key (installRecord now) with
    | (.ok _, resources) =>
      match (tracker.withResources resources).track (installEvent now) now with
      | (some _, tracker) => tracker.publish (.install now)
      | (none, tracker) => tracker
    | (.error _, resources) => tracker.withResources resources
  | (_, resources) => tracker.withResources resources

/-- What a tracker is built from: its queue, the resources, what answers for
properties if there is such, the time of the steady clock, and the host's part. -/
structure Parts (η : Type) where
  queue : EventQueue
  resources : Resources
  source : Option PropertySource := none
  elapsed : Nat := 0
  host : η

/-- The machines that a set-up asks for, in order. -/
def builtIn (settings : TrackerSettings) (hasSource : Bool) : List (Machine (World η)) :=
  (if settings.sessionContext then [World.sessionMachine η] else []) ++
  (if settings.lifecycle then [LifecycleState.machine (World η)] else []) ++
  (if settings.deepLinks then [DeepLinkState.machine (World η)] else []) ++
  (if settings.platformContext && hasSource then [World.platformMachine η] else [])

/-- The session that a set-up asks for. -/
def loadSession (settings : TrackerSettings) (config : SessionConfig) (resources : Resources) :
    Option Session × Resources :=
  if settings.sessionContext then
    let (session, resources) := Session.load settings.scope config resources
    (some (session.setAnonymise settings.anonymise), resources)
  else
    (none, resources)

/-- The tracker before its emitter is started. -/
def prepare
    (settings : TrackerSettings)
    (sessionConfig : SessionConfig)
    (deliveryConfig : DeliveryConfig)
    (parts : Parts η) :
    Tracker η :=
  let (session, resources) := loadSession settings sessionConfig parts.resources
  { settings := settings
    manager := (builtIn settings parts.source.isSome).foldl Manager.add {}
    world := {
      resources := resources
      session := session
      platform := if settings.platformContext then parts.source.map fun _ => {} else none
      source := parts.source.getD fun _ => none
      elapsed := parts.elapsed
      host := parts.host }
    outbox := .ofQueue parts.queue deliveryConfig }

/-- Launches a tracker: its emitter is started, and a first launch is tracked if
the set-up asks for it. -/
def launch
    (settings : TrackerSettings)
    (sessionConfig : SessionConfig)
    (deliveryConfig : DeliveryConfig)
    (parts : Parts η)
    (inRuntime : Bool)
    (now : Int) :
    Except EmitterError (Tracker η) :=
  let tracker := prepare settings sessionConfig deliveryConfig parts
  (tracker.loop.start inRuntime).map fun loop =>
    let tracker := { tracker with loop := loop }
    if settings.install then tracker.trackInstall now else tracker

/-- Stops the emitter's loop. -/
def shutdown (tracker : Tracker η) : Tracker η :=
  { tracker with loop := tracker.loop.shutdown }

theorem isAlive_shutdown (tracker : Tracker η) : tracker.shutdown.loop.isAlive = false :=
  tracker.loop.isAlive_shutdown

/-- But for its loop, a tracker that is shut down is as it was. -/
theorem shutdown_frame (tracker : Tracker η) :
    { tracker.shutdown with loop := tracker.loop } = tracker := rfl

/-- Stops or resumes tracking. -/
def setTracking (tracker : Tracker η) (on : Bool) : Tracker η := { tracker with tracking := on }

def setSubject (tracker : Tracker η) (subject : Option Subject) : Tracker η :=
  { tracker with subject := subject }

def setGdpr (tracker : Tracker η) (gdpr : Option GdprContext) : Tracker η :=
  { tracker with gdpr := gdpr }

/-- Changes the session if there is one. -/
def mapSession (tracker : Tracker η) (change : Session → Session) : Tracker η :=
  { tracker with world := { tracker.world with session := tracker.world.session.map change } }

def startNewSession (tracker : Tracker η) : Tracker η := tracker.mapSession Session.startNew

/-- Hides or shows the user. -/
def setAnonymise (tracker : Tracker η) (on : Bool) : Tracker η :=
  tracker.mapSession fun session => session.setAnonymise on

/-- Registers a machine of the host. -/
def addMachine (tracker : Tracker η) (machine : Machine η) : Tracker η :=
  { tracker with manager := tracker.manager.add (World.lift machine) }

/-- Removes a machine; the answer says whether there was one. -/
def removeMachine (tracker : Tracker η) (identifier : String) : Bool × Tracker η :=
  (tracker.manager.contains identifier,
    { tracker with manager := tracker.manager.remove identifier })

def drain (tracker : Tracker η) (transport : Transport) (clock : Time.Clock) :
    CycleReport × Tracker η :=
  let (report, emitter) := tracker.emitter.drain transport clock
  (report, tracker.withEmitter emitter)

def pauseEmitter (tracker : Tracker η) : Tracker η :=
  tracker.withEmitter (tracker.emitter.pause Emitter.callerReason)

def resumeEmitter (tracker : Tracker η) : Tracker η :=
  let resumed := tracker.withEmitter tracker.emitter.resume
  { resumed with loop := resumed.loop.signal }

end Tracker

end Telemetry

import Telemetry.Form.Event
import Telemetry.Form.Signal
import Telemetry.Form.Tracker
import Telemetry.Rehearsal.Machine
import Telemetry.Rehearsal.Outage
import Telemetry.Rehearsal.Properties
import Telemetry.Rehearsal.Transport
import Telemetry.Tracker

/-!
Contract: a tracker with surroundings that a form describes, to try out a set-up.

Owns:
- building the tracker on stores, outages, a device and a transport of the form;
- changes of the surroundings, and building it again on the same stores;
- what is new since it was looked at last.

Does not own: what is done with the tracker.

The loop of the emitter is stopped, so that events leave only when they are asked
to.
-/

namespace Telemetry.Rehearsal

/-- A tracker, its surroundings, and what was seen of it. The host's part of the
tracker holds the notes of its machines, the latest first. -/
structure Bench where
  tracker : Tracker (List Json)
  session : SessionConfig
  delivery : DeliveryConfig
  transport : Transport
  settingsOutage : SettingsOutage
  queueOutage : QueueOutage
  properties : Option Properties
  wall : Int
  lastRow : RowId := 0
  handed : Nat := 0
  place : Nat := 0

def note : Note (List Json) := fun entry log => entry :: log

namespace Bench

/-- The instant that is written on events. -/
def now (bench : Bench) : Int := Time.nowMillis bench.wall

/-- The surroundings of a form, and the tracker built in them. -/
def build (form : Json) (wall : Int) (uuids : UuidSource) (inRuntime : Bool) :
    Except EmitterError Bench := do
  let isTable (key : String) : Bool := form.textAt key == "sqlite"
  let settingsOutage := ({} : SettingsOutage).switched (form.memberOrNull "fail_settings")
  let queueOutage := ({} : QueueOutage).switched (form.memberOrNull "fail_store")
  let properties := (form.member? "properties").map (Properties.changed [])
  let session := SessionConfig.ofForm (form.memberOrNull "session")
  let delivery := DeliveryConfig.ofForm (form.memberOrNull "emitter")
  let script := form.memberOrNull "transport"
  let tracker ← Tracker.launch (.ofForm (form.memberOrNull "settings")) session delivery
    { queue := {
        backend := if isTable "store" then .table .empty else .memory .empty
        refuses := queueOutage.refuses }
      resources := {
        settings := {
          backend := seeded (isTable "settings_store") (form.itemsAt "seed")
          refuses := settingsOutage.refuses }
        bus := .standard
        uuids := uuids }
      source := properties.map Properties.source
      host := [] }
    inRuntime (Time.nowMillis wall)
  return {
    tracker := tracker.shutdown
    session := session
    delivery := delivery
    transport := Rehearsal.transport (.ofForm script) script
    settingsOutage := settingsOutage
    queueOutage := queueOutage
    properties := properties
    wall := wall
    place := tracker.world.resources.bus.position }

/-- Builds the tracker again on the same stores, with a bus of its own. -/
def restart (bench : Bench) (settings : TrackerSettings) : Except EmitterError Bench := do
  let world := bench.tracker.world
  let outbox := bench.tracker.outbox
  let tracker ← Tracker.launch settings bench.session bench.delivery
    { queue := outbox.queue
      resources := { world.resources with bus := .standard }
      source := bench.properties.map Properties.source
      elapsed := world.elapsed
      host := world.host }
    true bench.now
  let tracker := tracker.shutdown
  return { bench with
    tracker := { tracker with
      world := { tracker.world with reads := tracker.world.reads ++ world.reads }
      outbox := { tracker.outbox with handed := outbox.handed } }
    place := tracker.world.resources.bus.position }

/-- Sets the wall clock, and lets time pass on both clocks. -/
def passTime (bench : Bench) (wall : Option Int) (span : Nat) : Bench :=
  let tracker := bench.tracker
  { bench with
    wall := wall.getD bench.wall + span
    tracker := { tracker with
      world := { tracker.world with elapsed := tracker.world.elapsed + span } } }

/-- Changes the properties of the device, if there is one. -/
def changeProperties (bench : Bench) (form : Json) : Bench :=
  let properties := bench.properties.map fun held => held.changed form
  let tracker := bench.tracker
  { bench with
    properties := properties
    tracker := { tracker with
      world := { tracker.world with
        source := (properties.map Properties.source).getD tracker.world.source } } }

def switchQueue (bench : Bench) (form : Json) : Bench :=
  let outage := bench.queueOutage.switched form
  let tracker := bench.tracker
  { bench with
    queueOutage := outage
    tracker := { tracker with
      outbox := { tracker.outbox with
        queue := { tracker.outbox.queue with refuses := outage.refuses } } } }

def switchSettings (bench : Bench) (form : Json) : Bench :=
  let outage := bench.settingsOutage.switched form
  let tracker := bench.tracker
  let resources := tracker.world.resources
  { bench with
    settingsOutage := outage
    tracker := tracker.withResources
      { resources with settings := { resources.settings with refuses := outage.refuses } } }

/-- Lets the transport answer by other rules. -/
def changeTransport (bench : Bench) (form : Json) : Bench :=
  { bench with transport := Rehearsal.transport bench.transport.method form }

/-- The rows that were added since the last look. -/
def newRows (bench : Bench) : List QueueRow :=
  bench.tracker.outbox.queue.backend.rows.filter fun row => decide (bench.lastRow < row.id)

/-- The requests that were handed over since the last look. -/
def newRequests (bench : Bench) : List Request :=
  let handed := bench.tracker.outbox.handed
  (handed.take (handed.length - bench.handed)).reverse

/-- The form of what is new, and the tracker with all of it seen. -/
def look (bench : Bench) : List (String × Json) × Bench :=
  let tracker := bench.tracker
  let world := tracker.world
  let rows := bench.newRows
  let total := (tracker.outbox.queue.backend.count.toOption).getD 0
  ([("stored", .array (rows.map fun row => QueuedEvent.toForm ⟨row.id, row.payload⟩)),
      ("count", .integer total),
      ("calls", Request.listForm bench.newRequests),
      ("reads", Json.ofOption (fun _ => readForm world.reads.reverse) bench.properties),
      ("log", .array world.host.reverse),
      ("notifications", world.resources.bus.receivedForm bench.place)],
    { bench with
      lastRow := rows.foldl (fun last row => max last row.id) bench.lastRow
      handed := tracker.outbox.handed.length
      place := world.resources.bus.position
      tracker := { tracker with world := { world with reads := [], host := [] } } })

end Bench

end Telemetry.Rehearsal

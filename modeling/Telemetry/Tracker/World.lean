import Telemetry.Platform
import Telemetry.Session
import Telemetry.State.Machine

/-!
Contract: what a tracker's machines act on, and the machines that need it.

Owns:
- the shared resources, the session, the platform and the host's own part;
- the machine of the session and that of the platform;
- machines of the host, which see the host's part alone.

Does not own: the queue of events, which no machine touches.
-/

namespace Telemetry

/-- What machines act on. `source` is what the device answers at this moment,
`reads` the properties that were read, the latest first, and `elapsed` the time
of a clock that never goes back, in milliseconds. `η` is the host's part. -/
structure World (η : Type) where
  resources : Resources
  session : Option Session := none
  platform : Option PlatformContext := none
  source : PropertySource := fun _ => none
  reads : List PlatformProperty := []
  elapsed : Nat := 0
  host : η

namespace World

variable {η : Type}

def updateSession (world : World η) (event : ObservedEvent) : Option MachineState × World η :=
  match world.session with
  | none => (none, world)
  | some session =>
    let (next, resources) := session.update world.resources event.id event.timestamp
      (LifecycleSignal.ofSchema? event.schema)
    (some (.session next.state), { world with session := some next, resources := resources })

def hidesUser (world : World η) : Bool :=
  match world.session with
  | none => false
  | some session => session.anonymise

def sessionEntities? (world : World η) : Option MachineState → Option (List Entity)
  | some (.session state) => some [state.entity world.hidesUser]
  | _ => none

def sessionIdentifier : String := "Session"

/-- The machine of the session: every event advances it and shows it. -/
def sessionMachine (η : Type) : Machine (World η) where
  identifier := sessionIdentifier
  kind := .session
  subscriptions := { transitions := .all, entities := .all }
  transition := fun event _ world => world.updateSession event
  entities := fun _ state world => (world.sessionEntities? state, world)

/-- The entity of the platform, whose groups are read again if it is time. -/
def platformEntity (world : World η) : Option Entity × World η :=
  match world.platform with
  | none => (none, world)
  | some context =>
    let (context, read) := context.refresh world.source world.elapsed
    (context.entity?,
      { world with platform := some context, reads := read.reverse ++ world.reads })

def platformIdentifier : String := "PlatformContext"

/-- The machine of the platform: every event shows it. -/
def platformMachine (η : Type) : Machine (World η) where
  identifier := platformIdentifier
  kind := .platform
  subscriptions := { entities := .all }
  entities := fun _ _ world =>
    let (entity, world) := world.platformEntity
    (entity.map fun entity => [entity], world)

def lift (machine : Machine η) : Machine (World η) where
  identifier := machine.identifier
  kind := machine.kind
  subscriptions := machine.subscriptions
  transition := fun event state world =>
    let (next, host) := machine.transition event state world.host
    (next, { world with host := host })
  entities := fun event state world =>
    let (given, host) := machine.entities event state world.host
    (given, { world with host := host })
  payloadValues := machine.payloadValues
  filter := fun event state world =>
    let (vote, host) := machine.filter event state world.host
    (vote, { world with host := host })
  afterTrack := fun event world => { world with host := machine.afterTrack event world.host }

end World

end Telemetry

import Telemetry.State.Machine

/-!
Contract: the registered machines and the versions of their states.

Owns:
- registration, replacement and removal of machines;
- versions of states, which are computed when they are first read;
- the snapshot that an event gets, and what the machines answer for it.

Does not own: what the answers are used for.

A version is due until it is read. It then is settled for good, so every
snapshot that names it shows the same state.
-/

namespace Telemetry

abbrev VersionId := Nat

/-- A version of a state: computed, or due with the event, the version before
and the machine that it will be computed from. -/
inductive Version (ω : Type) where
  | settled (state : Option MachineState)
  | due (event : ObservedEvent) (previous : Option VersionId) (machine : Machine ω)

def Version.isSettled {ω : Type} : Version ω → Bool
  | .settled _ => true
  | .due _ _ _ => false

/-- For each machine with a state, the version that an event sees. -/
abbrev Snapshot := Entries String VersionId

/-- The machines in the order of registration, the latest version of each
state, and all versions. -/
structure Manager (ω : Type) where
  machines : List (Machine ω) := []
  current : Snapshot := []
  versions : Array (Version ω) := #[]

namespace Manager

variable {ω : Type}

def find? (manager : Manager ω) (identifier : String) : Option (Machine ω) :=
  manager.machines.find? fun machine => machine.identifier == identifier

/-- A machine is registered under the identifier. -/
def contains (manager : Manager ω) (identifier : String) : Bool :=
  manager.machines.any fun machine => machine.identifier == identifier

/-- The identifiers in the order of registration. -/
def identifiers (manager : Manager ω) : List String :=
  manager.machines.map fun machine => machine.identifier

/-- Puts a machine in the place of the one with its identifier. -/
def replaceIn (machine : Machine ω) (machines : List (Machine ω)) : List (Machine ω) :=
  machines.map fun held => if held.identifier = machine.identifier then machine else held

/-- Registers a machine. It takes the place of one with its identifier, and its
state too if that was of the same kind. -/
def add (manager : Manager ω) (machine : Machine ω) : Manager ω :=
  match manager.find? machine.identifier with
  | none => { manager with machines := manager.machines ++ [machine] }
  | some held =>
    { manager with
      machines := replaceIn machine manager.machines
      current :=
        if held.kind = machine.kind then
          manager.current
        else
          manager.current.erase machine.identifier }

def remove (manager : Manager ω) (identifier : String) : Manager ω :=
  { manager with
    machines := manager.machines.filter fun machine => machine.identifier != identifier
    current := manager.current.erase identifier }

/-- Computes a version that is due, after the version before it, and settles it.
`bound` is greater than the number of any version before, as versions come
after those that they are computed from. -/
def settleWithin :
    (bound : Nat) → Manager ω → ω → VersionId → Option MachineState × Manager ω × ω
  | 0, manager, world, _ => (none, manager, world)
  | bound + 1, manager, world, id =>
    match manager.versions[id]? with
    | none => (none, manager, world)
    | some (.settled state) => (state, manager, world)
    | some (.due event previous machine) =>
      let (before, manager, world) := match previous with
        | none => (none, manager, world)
        | some previous => settleWithin bound manager world previous
      let (next, world) := machine.transition event before world
      let state := next.or before
      (state,
        { manager with versions := manager.versions.setIfInBounds id (.settled state) },
        world)

def settle (manager : Manager ω) (world : ω) (id : VersionId) :
    Option MachineState × Manager ω × ω :=
  settleWithin (id + 1) manager world id

def read (manager : Manager ω) (world : ω) (snapshot : Snapshot) (identifier : String) :
    Option MachineState × Manager ω × ω :=
  match snapshot.get? identifier with
  | none => (none, manager, world)
  | some id => manager.settle world id

def state (manager : Manager ω) (world : ω) (identifier : String) :
    Option MachineState × Manager ω × ω :=
  manager.read world manager.current identifier

def isSettled (manager : Manager ω) (id : VersionId) : Bool :=
  match manager.versions[id]? with
  | some version => version.isSettled
  | none => false

/-- Adds a version that is due for a machine and an event. The version before is
settled first, so that at most one is due for each machine. -/
def advance (manager : Manager ω) (world : ω) (event : ObservedEvent) (machine : Machine ω) :
    Manager ω × ω :=
  let previous := manager.current.get? machine.identifier
  let (_, manager, world) := manager.state world machine.identifier
  ({ manager with
      current := manager.current.insert machine.identifier manager.versions.size
      versions := manager.versions.push (.due event previous machine) },
    world)

/-- Advances the machines that follow the event, in order. -/
def advanceAll (event : ObservedEvent) :
    List (Machine ω) → Manager ω → ω → Manager ω × ω
  | [], manager, world => (manager, world)
  | machine :: rest, manager, world =>
    if machine.subscriptions.transitions.selects event.identifier then
      let (manager, world) := manager.advance world event machine
      advanceAll event rest manager world
    else
      advanceAll event rest manager world

/-- The snapshot for an event, after its transitions were noted. -/
def snapshot (manager : Manager ω) (world : ω) (event : ObservedEvent) :
    Snapshot × Manager ω × ω :=
  let (manager, world) := advanceAll event manager.machines manager world
  (manager.current, manager, world)

/-- The machines that a selection concerns, in order. -/
def concerned
    (manager : Manager ω)
    (selection : Subscriptions → Selector)
    (event : ObservedEvent) :
    List (Machine ω) :=
  manager.machines.filter fun machine =>
    (selection machine.subscriptions).selects event.identifier

/-- The entities that machines give to an event, in order. -/
def entitiesOf (event : ObservedEvent) (seen : Snapshot) :
    List (Machine ω) → Manager ω → ω → List Entity × Manager ω × ω
  | [], manager, world => ([], manager, world)
  | machine :: rest, manager, world =>
    let (state, manager, world) := manager.read world seen machine.identifier
    let (given, world) := machine.entities event state world
    let (others, manager, world) := entitiesOf event seen rest manager world
    (given.getD [] ++ others, manager, world)

def entities (manager : Manager ω) (world : ω) (event : ObservedEvent) (seen : Snapshot) :
    List Entity × Manager ω × ω :=
  entitiesOf event seen (manager.concerned Subscriptions.entities event) manager world

/-- Adds values under keys that are free. The answer says whether all were. -/
def mergeValues : List (String × Json) → Fields → Bool × Fields
  | [], fields => (true, fields)
  | (key, value) :: rest, fields =>
    if fields.contains key then
      (false, (mergeValues rest fields).2)
    else
      mergeValues rest (fields.insert key value)

/-- Adds the values that machines offer for an event, in order. -/
def addValuesOf (event : ObservedEvent) (seen : Snapshot) :
    List (Machine ω) → Manager ω → ω → Fields → (Bool × Fields) × Manager ω × ω
  | [], manager, world, fields => ((true, fields), manager, world)
  | machine :: rest, manager, world, fields =>
    let (state, manager, world) := manager.read world seen machine.identifier
    let (free, fields) :=
      mergeValues ((machine.payloadValues event state).getD []) fields
    let ((othersFree, fields), manager, world) :=
      addValuesOf event seen rest manager world fields
    ((free && othersFree, fields), manager, world)

/-- The fields with the values that machines offer for an event. A value whose
key is taken is left out, and the answer says whether there was none such. -/
def addPayloadValues
    (manager : Manager ω)
    (world : ω)
    (event : ObservedEvent)
    (seen : Snapshot)
    (fields : Fields) :
    (Bool × Fields) × Manager ω × ω :=
  addValuesOf event seen (manager.concerned Subscriptions.payloadValues event) manager world
    fields

/-- Asks machines for their votes until one rejects the event. -/
def votesOf (event : ObservedEvent) (seen : Snapshot) :
    List (Machine ω) → Manager ω → ω → Bool × Manager ω × ω
  | [], manager, world => (true, manager, world)
  | machine :: rest, manager, world =>
    let (state, manager, world) := manager.read world seen machine.identifier
    let (vote, world) := machine.filter event state world
    if vote = some false then
      (false, manager, world)
    else
      votesOf event seen rest manager world

/-- No machine rejects the event. -/
def accepts (manager : Manager ω) (world : ω) (event : ObservedEvent) (seen : Snapshot) :
    Bool × Manager ω × ω :=
  votesOf event seen (manager.concerned Subscriptions.filter event) manager world

/-- Tells machines that an event was tracked, in order. -/
def afterTrack (manager : Manager ω) (world : ω) (event : ObservedEvent) : ω :=
  (manager.concerned Subscriptions.afterTrack event).foldl
    (fun world machine => machine.afterTrack event world)
    world

end Manager

end Telemetry

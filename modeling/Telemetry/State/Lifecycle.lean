import Telemetry.State.Machine

/-!
Contract: the machine that knows whether the application is visible.

Owns: its transitions, and the entity it gives to every event.

Does not own: the events that tell of a change.
-/

namespace Telemetry

namespace LifecycleState

/-- Until an event tells otherwise the application is taken to be visible. -/
def initial : LifecycleState := ⟨true, none⟩

/-- The state that an event tells of. An index that is no unsigned 64-bit number
is left out. -/
def ofEvent? (event : ObservedEvent) : Option LifecycleState :=
  if event.schema = some Schemas.applicationForeground then
    some ⟨true, (event.data.get? "foregroundIndex").bind Json.asUnsigned?⟩
  else if event.schema = some Schemas.applicationBackground then
    some ⟨false, (event.data.get? "backgroundIndex").bind Json.asUnsigned?⟩
  else
    none

def entity (state : LifecycleState) : Entity where
  schema := Schemas.applicationLifecycle
  data := Entries.ofPairs
    ([("isVisible", .bool state.isVisible)] ++
      (state.index.map fun index => ("index", Json.integer index)).toList)

def ofState? : Option MachineState → Option LifecycleState
  | some (.lifecycle state) => some state
  | _ => none

def identifier : String := "Lifecycle"

def machine (ω : Type) : Machine ω where
  identifier := identifier
  kind := .lifecycle
  subscriptions := {
    transitions := .only [Schemas.applicationForeground, Schemas.applicationBackground]
    entities := .all }
  transition := fun event _ world => ((ofEvent? event).map .lifecycle, world)
  entities := fun _ state world => (some [((ofState? state).getD initial).entity], world)

end LifecycleState

end Telemetry

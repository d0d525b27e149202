import Telemetry.State.MachineState
import Telemetry.State.Selector

/-!
Contract: state machines that follow the tracked events.

Owns: the questions a machine answers, and the kinds of machine.

Does not own: when a machine is asked.

A machine acts on a world, which holds what machines share with each other and
with the program around them.

Values are the one answer that is given without the world. No machine of the
library offers any, so there is nothing in the world for an offer to read or to
change. A host's machine is asked for values at most once for each event that is
tracked, and its offer is told by what it is asked with, the event and the state
that the snapshot shows.
-/

namespace Telemetry

/-- The kind of a machine. A machine that is replaced by one of its own kind
leaves its state to it. -/
inductive MachineKind where
  | lifecycle
  | deepLink
  | session
  | platform
  | hosted (name : String)
deriving DecidableEq, Repr

/-- A state machine. A transition without an answer keeps the state. -/
structure Machine (ω : Type) where
  identifier : String
  kind : MachineKind
  subscriptions : Subscriptions := {}
  transition : ObservedEvent → Option MachineState → ω → Option MachineState × ω :=
    fun _ _ world => (none, world)
  entities : ObservedEvent → Option MachineState → ω → Option (List Entity) × ω :=
    fun _ _ world => (none, world)
  payloadValues : ObservedEvent → Option MachineState → Option Fields := fun _ _ => none
  filter : ObservedEvent → Option MachineState → ω → Option Bool × ω :=
    fun _ _ world => (none, world)
  afterTrack : ObservedEvent → ω → ω := fun _ world => world

namespace Machine

variable {ω : Type}

/-- The next state depends on the event and the state before, and not on the
world. -/
def IgnoresWorld (machine : Machine ω) : Prop :=
  ∀ event state world other,
    (machine.transition event state world).1 = (machine.transition event state other).1

end Machine

end Telemetry

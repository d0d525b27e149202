/-!
Contract: what the background loop of an emitter waits for.

Owns: the phases of the loop, the signals that it has not taken yet, and the
refusal to start.

Does not own: what the loop does when it wakes.
-/

namespace Telemetry

/-- What the loop does: it was not started or was stopped; it was started and
has not run yet; it waits for a signal or the next tick; it waits for a signal
alone, as a paused emitter does. -/
inductive LoopPhase where
  | stopped
  | starting
  | timed (nextTick : Nat)
  | untimed
deriving DecidableEq, Repr

/-- The loop: its phase, the number of signals that were not taken, and the
virtual time in milliseconds. -/
structure EmitterLoop where
  phase : LoopPhase := .stopped
  signals : Nat := 0
  clock : Nat := 0
deriving DecidableEq, Repr

/-- Why a loop is not started. -/
inductive EmitterError where
  | noRuntime
deriving DecidableEq, Repr

/-- The wording of a cause. -/
def EmitterError.message : EmitterError → String
  | .noRuntime => "emitter must be started from within a tokio runtime"

namespace EmitterLoop

/-- The most signals that are kept: a waiting loop is given one, and one more is
remembered. -/
def signalRoom : LoopPhase → Nat
  | .stopped | .starting => 1
  | .timed _ | .untimed => 2

/-- Signals the loop. A signal beyond the room is merged with the others. -/
def signal (loop : EmitterLoop) : EmitterLoop :=
  { loop with signals := min (loop.signals + 1) (signalRoom loop.phase) }

def taken (loop : EmitterLoop) : EmitterLoop := { loop with signals := loop.signals - 1 }

/-- Starts the loop unless it is alive. It needs a runtime to run in. -/
def start (loop : EmitterLoop) (inRuntime : Bool) : Except EmitterError EmitterLoop :=
  if inRuntime then
    match loop.phase with
    | .stopped => .ok { loop with phase := .starting }
    | _ => .ok loop
  else
    .error .noRuntime

/-- Stops the loop. A signal that it was given is remembered. -/
def shutdown (loop : EmitterLoop) : EmitterLoop :=
  { loop with phase := .stopped, signals := min loop.signals 1 }

/-- The loop was started and not stopped. -/
def isAlive (loop : EmitterLoop) : Bool := loop.phase != .stopped

theorem isAlive_shutdown (loop : EmitterLoop) : loop.shutdown.isAlive = false := rfl

end EmitterLoop

end Telemetry

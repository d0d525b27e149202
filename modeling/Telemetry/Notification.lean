import Telemetry.Uuid

/-!
Contract: signals about what a tracker does, and the bus that carries them.

Owns:
- the signals;
- a bus that keeps the latest signals for its subscribers, and what a slow
  subscriber loses.

Does not own: who publishes what.
-/

namespace Telemetry

/-- A signal of a tracker or its emitter. -/
inductive Notification where
  | install (timestamp : Int)
  | sessionStarted (sessionId : String) (index : Nat) (previous : Option String)
  | eventTracked (id : Uuid)
  | eventFiltered (id : Uuid)
  | requestsCompleted (sent failed : Nat)
  | emitterPaused (reason : String)
  | diagnostic (source message : String)
deriving DecidableEq, Repr

/-- What a subscriber receives: a signal, or the number of signals it lost. -/
inductive Delivered where
  | signal (notification : Notification)
  | lagged (count : Nat)
deriving DecidableEq, Repr

/-- A bus: how many of the latest signals it keeps, and all that were published,
the latest first. -/
structure Bus where
  capacity : Nat
  published : List Notification
deriving DecidableEq, Repr

namespace Bus

/-- The number of signals that a bus keeps unless told otherwise. -/
def defaultCapacity : Nat := 256

/-- A bus that keeps the next power of two of the wanted number of signals. -/
def ofCapacity (wanted : Nat) : Bus := ⟨(max wanted 1).nextPowerOfTwo, []⟩

/-- The bus that a tracker makes. -/
def standard : Bus := ofCapacity defaultCapacity

def publish (bus : Bus) (notification : Notification) : Bus :=
  { bus with published := notification :: bus.published }

/-- The place of a subscriber that joins now: it sees what is published later. -/
def position (bus : Bus) : Nat := bus.published.length

/-- What was published since a place, oldest first. -/
def since (bus : Bus) (place : Nat) : List Notification :=
  (bus.published.take (bus.position - place)).reverse

/-- What a subscriber at `place` receives: the signals since then, or, if they
are more than the bus keeps, how many were lost and then the kept ones. -/
def receive (bus : Bus) (place : Nat) : List Delivered :=
  let pending := bus.since place
  if pending.length ≤ bus.capacity then
    pending.map .signal
  else
    let lost := pending.length - bus.capacity
    .lagged lost :: (pending.drop lost).map .signal

@[simp]
theorem publish_published (bus : Bus) (notification : Notification) :
    (bus.publish notification).published = notification :: bus.published := rfl

end Bus

end Telemetry

import Telemetry.Event
import Telemetry.Session.State

/-!
Contract: the states that state machines can be in.

Owns: the state of the application's visibility, of a deep link, and the sum of
all states; a host's machines have states of their own.

Does not own: how a machine moves between states.
-/

namespace Telemetry

/-- Whether the application is visible, and how often it had become so. -/
structure LifecycleState where
  isVisible : Bool
  index : Option Nat
deriving DecidableEq, Repr

/-- A link and where it came from. -/
structure DeepLink where
  url : String
  referrer : Option String
deriving DecidableEq, Repr

/-- A link that waits for a screen, one that the latest screen is attached to,
or one that was attached before. -/
inductive DeepLinkState where
  | pending (link : DeepLink)
  | ready (link : DeepLink)
  | consumed
deriving DecidableEq, Repr

/-- The state of a machine. A host's state has a kind and a value. -/
inductive MachineState where
  | lifecycle (state : LifecycleState)
  | deepLink (state : DeepLinkState)
  | session (state : SessionState)
  | hosted (kind : String) (value : Json)
deriving DecidableEq, Repr

end Telemetry

import Telemetry.Configuration
import Telemetry.Delivery.Endpoint
import Telemetry.Tracker

/-!
Contract: a tracker from a configuration.

Owns: the order of what can fail, the causes and their wording.

Does not own: how the database is opened, and what is read from it.
-/

namespace Telemetry

/-- Why no tracker is created: its database does not open, its endpoint is refused, or its
emitter does not start. -/
inductive CreationError where
  | database (reason : String)
  | endpoint (cause : EndpointError)
  | emitter (cause : EmitterError)
deriving DecidableEq, Repr

/-- The wording of a cause. -/
def CreationError.message : CreationError → String
  | .database reason => "database error: " ++ reason
  | .endpoint cause => "transport error: " ++ cause.message
  | .emitter cause => "emitter error: " ++ cause.message

/-- Launches the tracker of a configuration on what was opened for it. -/
def Tracker.ofConfiguration
    {η : Type}
    (configuration : Configuration)
    (opened : Except String (Parts η))
    (inRuntime : Bool)
    (now : Int) :
    Except CreationError (Tracker η) := do
  let parts ← opened.mapError .database
  let _ ← (Endpoint.ofText configuration.delivery.endpoint).mapError .endpoint
  (Tracker.launch configuration.tracker configuration.sessionConfig configuration.deliveryConfig
    parts inRuntime now).mapError .emitter

end Telemetry

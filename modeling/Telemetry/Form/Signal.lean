import Telemetry.Json.Members
import Telemetry.Notification

/-!
Contract: the JSON forms of signals.

Owns: one object for each signal, with its type, and one for lost signals.

Does not own: who receives them.
-/

namespace Telemetry

def Notification.toForm : Notification → Json
  | .install timestamp =>
    .ofPairs [("type", .string "install"), ("timestamp_ms", .integer timestamp)]
  | .sessionStarted id index previous =>
    .ofPairs [("type", .string "session_started"), ("session_id", .string id),
      ("session_index", .integer index), ("previous_session_id", Json.ofText? previous)]
  | .eventTracked id =>
    .ofPairs [("type", .string "event_tracked"), ("event_id", .string id.text)]
  | .eventFiltered id =>
    .ofPairs [("type", .string "event_filtered"), ("event_id", .string id.text)]
  | .requestsCompleted sent failed =>
    .ofPairs [("type", .string "requests_completed"), ("sent", .integer sent),
      ("failed", .integer failed)]
  | .emitterPaused reason =>
    .ofPairs [("type", .string "emitter_paused"), ("reason", .string reason)]
  | .diagnostic source message =>
    .ofPairs [("type", .string "diagnostic"), ("source", .string source),
      ("message", .string message)]

/-- The form of what a subscriber receives. -/
def Delivered.toForm : Delivered → Json
  | .signal notification => notification.toForm
  | .lagged count => .ofPairs [("type", .string "lagged"), ("count", .integer count)]

def Bus.receivedForm (bus : Bus) (place : Nat) : Json :=
  .array ((bus.receive place).map Delivered.toForm)

end Telemetry

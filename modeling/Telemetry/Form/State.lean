import Telemetry.Json.Members
import Telemetry.State.Selector
import Telemetry.State.MachineState

/-!
Contract: the JSON forms of machine states and subscriptions.

Owns: one object for each state, with its type, and the selections of a machine.

Does not own: the forms of machines.
-/

namespace Telemetry

def SessionState.toForm (state : SessionState) : Json :=
  .ofPairs [
    ("user_id", .string state.userId),
    ("session_id", .string state.sessionId),
    ("previous_session_id", Json.ofText? state.previousSessionId),
    ("session_index", .integer state.sessionIndex),
    ("storage_mechanism", .string state.storageMechanism),
    ("first_event_id", Json.ofText? state.firstEventId),
    ("first_event_timestamp_ms", Json.ofOption .integer state.firstEventTimestamp),
    ("event_index", .integer state.eventIndex)]

def DeepLink.toForm (type : String) (link : DeepLink) : Json :=
  .ofPairs [("type", .string type), ("url", .string link.url),
    ("referrer", Json.ofText? link.referrer)]

def MachineState.toForm : MachineState → Json
  | .lifecycle state =>
    .ofPairs [("type", .string "lifecycle"), ("is_visible", .bool state.isVisible),
      ("index", Json.ofOption Json.ofNat state.index)]
  | .deepLink (.pending link) => link.toForm "pending"
  | .deepLink (.ready link) => link.toForm "ready"
  | .deepLink .consumed => .ofPairs [("type", .string "consumed")]
  | .session state => state.toForm
  | .hosted "count" value => .ofPairs [("type", .string "count"), ("n", value)]
  | .hosted kind value => .ofPairs [("type", .string kind), (kind, value)]

/-- The selection of a form: all, those listed, or none. -/
def Selector.ofForm : Json → Selector
  | .string "all" => .all
  | .array items => .only (items.filterMap Json.asString?)
  | _ => .none

def Subscriptions.ofForm (form : Json) : Subscriptions where
  transitions := .ofForm (form.memberOrNull "transitions")
  entities := .ofForm (form.memberOrNull "entities")
  payloadValues := .ofForm (form.memberOrNull "payload_values")
  filter := .ofForm (form.memberOrNull "filter")
  afterTrack := .ofForm (form.memberOrNull "after_track")

end Telemetry

import Telemetry.Form.Event
import Telemetry.Form.State
import Telemetry.State.DeepLink
import Telemetry.State.Lifecycle

/-!
Contract: machines that a host describes in JSON, to try out a set-up.

Owns: a machine that counts events, one that answers as it is told, and the
forms of both and of the built-in machines.

Does not own: where the machines' notes go.

Each machine notes what it is asked, so that the order of the questions shows.
-/

namespace Telemetry.Rehearsal

/-- Adds a note to a world. -/
abbrev Note (ω : Type) := Json → ω → ω

variable {ω : Type}

def countOf : Option MachineState → Option Int
  | some (.hosted "count" (.integer n)) => some n
  | _ => none

/-- A machine that counts its transitions, and gives the count to events. -/
def counter (note : Note ω) (form : Json) : Machine ω :=
  let identifier := form.textAt "id"
  { identifier := identifier
    kind := .hosted "counter"
    subscriptions := .ofForm form
    transition := fun _ state world =>
      let next := (countOf state).getD 0 + 1
      (some (.hosted "count" (.integer next)),
        note (.array [.string identifier, .string "transition", .integer next]) world)
    entities := fun _ state world =>
      ((countOf state).map fun n =>
        [⟨"iglu:test/count/jsonschema/1-0-0", [("n", .integer n)]⟩], world) }

/-- The entity of a state that is a text. -/
def textEntities : Option MachineState → List Entity
  | some (.hosted "text" value) => [⟨"iglu:test/text/jsonschema/1-0-0", [("text", value)]⟩]
  | _ => []

/-- A machine that keeps the text of one field, and gives the entities, values
and votes that its form lists. -/
def scripted (note : Note ω) (form : Json) : Machine ω :=
  let identifier := form.textAt "id"
  { identifier := identifier
    kind := .hosted "scripted"
    subscriptions := .ofForm form
    transition := fun event _ world =>
      let read := (form.textAt? "field").bind event.string?
      (read.map fun text => .hosted "text" (.string text),
        note (.array [.string identifier, .string "transition", Json.ofText? read]) world)
    entities := fun _ state world =>
      ((form.member? "attach").map fun attached =>
        (attached.asArray?.getD []).map Entity.ofForm ++ textEntities state, world)
    payloadValues := fun _ _ => (form.member? "values").bind Json.asObject?
    filter := fun _ state world =>
      let vote := match form.memberOrNull "vote" with
        | .bool vote => some vote
        | .string "has_state" => some state.isSome
        | _ => none
      (vote, note (.array [.string identifier, .string "filter"]) world)
    afterTrack := fun event world =>
      note (.array [.string identifier, .string "after_track", .string event.identifier])
        world }

def machine (note : Note ω) (form : Json) : Machine ω :=
  match form.textAt "type" with
  | "lifecycle" => LifecycleState.machine ω
  | "deep_link" => DeepLinkState.machine ω
  | "counter" => counter note form
  | _ => scripted note form

end Telemetry.Rehearsal

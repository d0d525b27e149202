import Telemetry.Decimal.Reading
import Telemetry.Event.Message
import Telemetry.Json.Members
import Telemetry.Payload

/-!
Contract: the JSON forms of events, entities and payloads.

Owns:
- events described by a kind and its fields, and the form of an event with all
  that can be read off it;
- entities as objects of schema and data;
- payloads as objects of texts or lists of pairs.

Does not own: messages from outside, which have a form and checks of their own.
-/

namespace Telemetry

def MessageError.kind : MessageError → String
  | .notAnObject => "NotAnObject"
  | .missingSchema => "MissingSchema"
  | .invalidData => "InvalidData"
  | .invalidEntity _ => "InvalidEntity"
  | .invalidTimestamp => "InvalidTimestamp"

/-- The identifier under a key. -/
def Uuid.at? (form : Json) (key : String) : Option Uuid := (form.textAt? key).bind Uuid.parse?

def Entity.ofForm (form : Json) : Entity := ⟨form.textAt "schema", form.fieldsAt "data"⟩

def Entity.listForm (entities : List Entity) : Json := .array (entities.map Entity.toJson)

/-- The payload of a form: an object of texts, or a list of pairs. -/
def Payload.ofForm : Json → Payload
  | .object members => .ofPairs (members.filterMap fun entry =>
    entry.2.asString?.map fun value => (entry.1, value))
  | .array items => .ofPairs (items.filterMap fun
    | .array [.string key, .string value] => some (key, value)
    | _ => none)
  | _ => .empty

namespace EventKind

/-- The kind of event that a form describes. -/
def ofForm (form : Json) : Except MessageError Event :=
  match form.textAt "kind" with
  | "structured" => .ok {
      kind := .structured {
        category := form.textAt "category"
        action := form.textAt "action"
        label := form.textAt? "label"
        property := form.textAt? "property"
        value := (form.textAt? "value").bind Decimal.readFloat? } }
  | "page_view" => .ok {
      kind := .pageView {
        url := form.textAt "url"
        title := form.textAt? "title"
        referrer := form.textAt? "referrer" } }
  | "foreground" => .ok (.foreground ((form.naturalAt? "index").getD 0))
  | "background" => .ok (.background ((form.naturalAt? "index").getD 0))
  | "screen_view" =>
    .ok (.screenView (form.textAt "name") ((Uuid.at? form "screen_id").getD .zero)
      (form.textAt? "type"))
  | "deep_link" => .ok (.deepLinkReceived (form.textAt "url") (form.textAt? "referrer"))
  | "install" => .ok .applicationInstall
  | "bridge" => Event.ofMessage (form.memberOrNull "message")
  | _ => .ok (.ofBody (.ofForm form))

/-- The class of a kind: fixed fields, data from the host, or data from outside. -/
def label : EventKind → String
  | .selfDescribing _ => "self_describing"
  | .external _ => "external"
  | _ => "primitive"

end EventKind

namespace Event

/-- The event that a form describes, with its identifier, its true timestamp and
further entities. -/
def ofForm (form : Json) : Except MessageError Event :=
  (EventKind.ofForm form).map fun event =>
    { event with
      id := (Uuid.at? form "id").or event.id
      trueTimestamp := (form.integerAt? "true_timestamp").or event.trueTimestamp
      entities := event.entities ++ (form.itemsAt "entities").map Entity.ofForm }

/-- All that can be read off an event. -/
def toForm (event : Event) : Json :=
  .ofPairs [
    ("id", Json.ofText? (event.id.map Uuid.text)),
    ("kind", .string event.kind.label),
    ("name", .string event.name),
    ("schema", Json.ofText? event.schema?),
    ("identifier", .string event.identifier),
    ("payload", .object event.data),
    ("true_timestamp", Json.ofOption .integer event.trueTimestamp),
    ("entities", Entity.listForm event.entities)]

end Event

end Telemetry

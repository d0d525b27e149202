import Telemetry.Decimal.Layout
import Telemetry.Entity
import Telemetry.Schemas
import Telemetry.Uuid

/-!
Contract: occurrences that a host application can track.

Owns:
- the kinds of event, with the fields that each carries;
- the built-in self-describing events;
- the name, schema, identifier and data of an event, and the view of a tracked
  event that state machines see.

Does not own: messages from outside, which `Event.ofMessage` checks.
-/

namespace Telemetry

/-- A category and an action, with optional label, property and number. -/
structure Structured where
  category : String
  action : String
  label : Option String := none
  property : Option String := none
  value : Option Float := none
deriving DecidableEq, Repr

/-- A page that was viewed. -/
structure PageView where
  url : String
  title : Option String := none
  referrer : Option String := none
deriving DecidableEq, Repr

/-- What happened: an event with fixed fields, or data under a schema from the
host or from an external message. -/
inductive EventKind where
  | structured (body : Structured)
  | pageView (body : PageView)
  | selfDescribing (body : Entity)
  | external (body : Entity)
deriving DecidableEq, Repr

/-- An occurrence with its optional identifier and true timestamp, and the
entities that come with it. -/
structure Event where
  id : Option Uuid := none
  kind : EventKind
  trueTimestamp : Option Int := none
  entities : List Entity := []
deriving DecidableEq, Repr

namespace Structured

/-- The text of a number: the fewest digits that read back, never with an
exponent. -/
def numberText (value : Float) : String :=
  String.ofList (Decimal.Layout.plain.characters value)

def fields (body : Structured) : Fields :=
  let optional (key : String) (value : Option String) : List (String × Json) :=
    (value.map fun text => (key, Json.string text)).toList
  Entries.ofPairs
    ([(Keys.category, .string body.category), (Keys.action, .string body.action)] ++
      optional Keys.label body.label ++ optional Keys.property body.property ++
      optional Keys.value (body.value.map numberText))

end Structured

namespace PageView

def fields (body : PageView) : Fields :=
  let optional (key : String) (value : Option String) : List (String × Json) :=
    (value.map fun text => (key, Json.string text)).toList
  Entries.ofPairs
    ([(Keys.pageUrl, .string body.url)] ++ optional Keys.pageTitle body.title ++
      optional Keys.pageReferrer body.referrer)

end PageView

namespace EventKind

/-- The schema of an event that has one. -/
def schema? : EventKind → Option String
  | .selfDescribing body | .external body => some body.schema
  | _ => none

def name : EventKind → String
  | .structured _ => EventNames.structured
  | .pageView _ => EventNames.pageView
  | _ => EventNames.selfDescribing

def data : EventKind → Fields
  | .structured body => body.fields
  | .pageView body => body.fields
  | .selfDescribing body | .external body => body.data

theorem name_mem_all (kind : EventKind) : kind.name ∈ EventNames.all := by
  cases kind <;> simp [name, EventNames.all]

end EventKind

namespace Event

def schema? (event : Event) : Option String := event.kind.schema?

def name (event : Event) : String := event.kind.name

def data (event : Event) : Fields := event.kind.data

/-- What machines subscribe to: the schema if there is one, else the name. -/
def identifier (event : Event) : String := event.schema?.getD event.name

/-- A self-describing event. -/
def ofBody (body : Entity) : Event := { kind := .selfDescribing body }

/-- A self-describing event of a schema with the given data. -/
def builtIn (schema : String) (pairs : List (String × Json)) : Event :=
  ofBody ⟨schema, Entries.ofPairs pairs⟩

/-- The application moved to the foreground for the `index`-th time. -/
def foreground (index : Nat) : Event :=
  builtIn Schemas.applicationForeground [("foregroundIndex", .integer index)]

/-- The application moved to the background for the `index`-th time. -/
def background (index : Nat) : Event :=
  builtIn Schemas.applicationBackground [("backgroundIndex", .integer index)]

/-- A screen was shown; `type` says what sort of screen. -/
def screenView (name : String) (screen : Uuid) (type : Option String) : Event :=
  builtIn Schemas.screenView
    ([("name", .string name), ("id", .string screen.text)] ++
      (type.map fun text => ("type", Json.string text)).toList)

/-- The application was opened through a link. -/
def deepLinkReceived (url : String) (referrer : Option String) : Event :=
  builtIn Schemas.deepLinkReceived
    ([("url", .string url)] ++
      (referrer.map fun text => ("referrer", Json.string text)).toList)

def applicationInstall : Event := builtIn Schemas.applicationInstall []

end Event

/-- A tracked event as state machines see it: with the identifier and the
instant that tracking gave it. -/
structure ObservedEvent where
  id : Uuid
  name : String
  schema : Option String
  data : Fields
  timestamp : Int
  trueTimestamp : Option Int
  entities : List Entity
deriving DecidableEq, Repr

namespace ObservedEvent

/-- The view of an event that was given `id` and `timestamp`. -/
def ofEvent (event : Event) (id : Uuid) (timestamp : Int) : ObservedEvent where
  id := id
  name := event.name
  schema := event.schema?
  data := event.data
  timestamp := timestamp
  trueTimestamp := event.trueTimestamp
  entities := event.entities

/-- What machines subscribe to. -/
def identifier (event : ObservedEvent) : String := event.schema.getD event.name

/-- The text member of the data under `key`. -/
def string? (event : ObservedEvent) (key : String) : Option String := event.data.string? key

end ObservedEvent

end Telemetry

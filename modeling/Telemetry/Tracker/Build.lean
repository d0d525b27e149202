import Telemetry.Event
import Telemetry.Payload
import Telemetry.Tracker.Settings
import Telemetry.Tracker.Subject

/-!
Contract: the payload that is built for an event.

Owns:
- the tracker's own entries, the body or fields of the event, and the context
  entities, in the order in which they are written;
- the addresses that are copied out of the body or an entity for two kinds of
  event, with a long scheme cut short.

Does not own: which fields and entities an event has.
-/

namespace Telemetry.Build

/-- The most characters of an address's scheme that are kept. -/
def schemeLimit : Nat := 16

/-- The parts before and after the first mark between scheme and rest. -/
def splitScheme : List Char → Option (List Char × List Char)
  | [] => none
  | ':' :: '/' :: '/' :: rest => some ([], rest)
  | character :: rest =>
    (splitScheme rest).map fun parts => (character :: parts.1, parts.2)

/-- An address with a scheme of at most so many characters. -/
def truncateScheme (address : String) : String :=
  match splitScheme address.toList with
  | none => address
  | some (scheme, rest) =>
    if schemeLimit < scheme.length then
      String.ofList (scheme.take schemeLimit ++ [':', '/', '/'] ++ rest)
    else
      address

/-- The text of a field: a text is written as it is, and null as nothing. -/
def fieldText : Json → String
  | .string text => text
  | .null => ""
  | other => other.text

/-- The entries that the tracker writes first. -/
def base (settings : TrackerSettings) (subject : Option Subject) : Payload :=
  let payload :=
    (((Payload.empty.insert Keys.trackerVersion trackerVersion).insert
      Keys.trackerNamespace settings.scope).insert
      Keys.appId settings.appId).insert
      Keys.platform settings.platform
  match subject with
  | none => payload
  | some subject => subject.write payload

/-- The entries of every event: its name, identifier and instants. -/
def stampEvent (event : ObservedEvent) (payload : Payload) : Payload :=
  (((payload.insert Keys.event event.name).insert
    Keys.eventId event.id.text).insert
    Keys.deviceTimestamp (Decimal.integerText event.timestamp)).insertOption
    Keys.trueTimestamp (event.trueTimestamp.map Decimal.integerText)

def bodyJson (schema : String) (fields : Fields) : Json :=
  .object [
    ("data", .object [("data", .object fields), ("schema", .string schema)]),
    ("schema", .string Schemas.unstructEvent)]

/-- Writes fields under keys that are free. -/
def writeFields (fields : Fields) (payload : Payload) : Payload :=
  fields.foldl
    (fun payload entry =>
      if payload.contains entry.1 then payload else payload.insert entry.1 (fieldText entry.2))
    payload

/-- Writes the fields of an event: in one body if it has a schema. -/
def writeEvent (base64 : Bool) (schema : Option String) (fields : Fields) (payload : Payload) :
    Payload :=
  match schema with
  | some schema =>
    payload.insertJson (bodyJson schema fields) base64 Keys.unstructuredEncoded
      Keys.unstructured
  | none => writeFields fields payload

def contextsJson (entities : List Entity) : Json :=
  .object [
    ("data", .array (entities.map Entity.toJson)),
    ("schema", .string Schemas.contexts)]

/-- Writes the context entities if there are any. -/
def writeContexts (base64 : Bool) (entities : List Entity) (payload : Payload) : Payload :=
  if entities.isEmpty then
    payload
  else
    payload.insertJson (contextsJson entities) base64 Keys.contextEncoded Keys.context

/-- The address and referrer that an event shows: a received link's are in its
fields, and a screen's in its first link entity. -/
def promoted (schema : Option String) (fields : Fields) (entities : List Entity) :
    Option String × Option String :=
  if schema = some Schemas.deepLinkReceived then
    (fields.string? "url", fields.string? "referrer")
  else if schema = some Schemas.screenView then
    match entities.find? fun entity => entity.schema == Schemas.deepLink with
    | none => (none, none)
    | some link => (link.string? "url", link.string? "referrer")
  else
    (none, none)

/-- Writes an address and a referrer. -/
def writePromoted (shown : Option String × Option String) (payload : Payload) : Payload :=
  (payload.insertOption Keys.pageUrl (shown.1.map truncateScheme)).insertOption
    Keys.pageReferrer (shown.2.map truncateScheme)

/-- The payload of an event with its fields and context entities. -/
def payload
    (settings : TrackerSettings)
    (subject : Option Subject)
    (event : ObservedEvent)
    (fields : Fields)
    (entities : List Entity) :
    Payload :=
  writePromoted (promoted event.schema fields entities)
    (writeContexts settings.base64 entities
      (writeEvent settings.base64 event.schema fields
        (stampEvent event (base settings subject))))

end Telemetry.Build

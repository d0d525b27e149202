import Telemetry.Delivery.Address
import Telemetry.Flush
import Telemetry.Form.Delivery
import Telemetry.Form.Event
import Telemetry.Rehearsal.Transport
import Telemetry.Text.Occurrence

/-!
Contract: a collector that answers as a form tells, and a flush to it from an
empty directory.

Owns:
- the answer by the first text that occurs in a message, or else by a default;
- what the collector receives;
- the files that a flush finds: one configuration and one database.

Does not own: the flush.
-/

namespace Telemetry.Rehearsal

/-- The host and port where the collector answers. -/
def collectorAuthority : String := "127.0.0.1:8080"

/-- Where the collector answers. -/
def collectorBase : String := "http://" ++ collectorAuthority

def databasePath : String := "/var/lib/events.db"

/-- The text with the path of the database and the base of the collector in the
places that are left for them. -/
def filledIn (text : String) : String :=
  (text.replace "\x7bdb\x7d" databasePath).replace "\x7bendpoint\x7d" collectorBase

/-- A status that a client takes for an answer. -/
def statusOf (form : Json) : Option Nat :=
  form.asNatural?.filter fun status => decide (200 ≤ status) && decide (status ≤ 999)

/-- The first line of a message to an endpoint, if the message reaches the
collector. -/
def lineAt? (endpoint : Endpoint) (message : HttpMessage) : Option String :=
  let authority := (WebAddress.ofText? (endpoint.url message.method)).map WebAddress.authority
  if endpoint.base.startsWith "http://" && authority == some collectorAuthority.toList then
    (endpoint.target? message).map fun target =>
      (if message.method = .get then "GET " else "POST ") ++ target ++ " HTTP/1.1"
  else
    none

/-- The status that the collector of a form gives to a message. -/
def answered (form : Json) (line : String) (message : HttpMessage) : Option Nat :=
  let concerns (rule : Json) : Bool :=
    let part := rule.textAt "contains"
    Text.occurs part line || Text.occurs part message.body
  match (form.itemsAt "statuses").find? concerns with
  | some rule => statusOf (rule.memberOrNull "status")
  | none => statusOf ((form.field? "default").getD (.integer 200))

def collectorTransport (form : Json) (endpoint : Endpoint) (method : DeliveryMethod) :
    Transport where
  method := method
  answer := fun _ request =>
    let message := HttpMessage.ofRequest method request
    .returned ⟨(lineAt? endpoint message).bind fun line => answered form line message,
      request.oversize, request.ids⟩

/-- What the collector receives of a request: the method and the path, and the
identifiers of the events. -/
def receivedForm? (endpoint : Endpoint) (method : DeliveryMethod) (request : Request) :
    Option Json :=
  let identifiers := request.payloads.map fun payload => Json.ofText? (payload.get? Keys.eventId)
  (lineAt? endpoint (HttpMessage.ofRequest method request)).map fun line =>
    let verb := if method = .get then "GET " else "POST "
    let path := (line.toList.drop verb.length).takeWhile fun character =>
      character != '?' && character != ' '
    .ofPairs [
      ("line", .string (verb ++ String.ofList path)),
      ("eids", if method = .get then .null else .array identifiers),
      ("query_eid", if method = .get then identifiers.head?.getD .null else .null)]

/-- The parts of a path, without those that stay in place. -/
def pathParts (path : String) : List String :=
  (path.splitOn "/").filter fun part => part != "" && part != "."

/-- What a flush finds at a path: the configuration of a form, or a directory, or
nothing. -/
def fileAt (form : Json) (path : String) : FileContents :=
  let parts := pathParts path
  let isAbsolute := path.startsWith "/"
  if !isAbsolute && parts == pathParts ((form.textAt? "config_name").getD Flush.usualPath) then
    match form.textAt? "toml" with
    | some text => .read (filledIn text)
    | none => .missing
  else if parts.all (· == "..") then
    .unreadable
  else
    .missing

def variableOf? (form : Json) (name : String) : Option String :=
  ((form.memberOrNull "env").textAt? name).map filledIn

def databaseRows (form : Json) (now : Int) : TableQueue :=
  (form.itemsAt "rows").foldl
    (fun queue row => ((queue.insert (.ofForm row) now).toOption.map Prod.snd).getD queue)
    .empty

/-- What a flush leaves: its summary and the requests that the collector received,
unless it did not start, and the rows of the database. -/
structure FlushOutcome where
  finished : Option (String × List Json)
  left : List RowId

/-- Flushes the database of a form, whose rows were inserted at one instant, at
another instant. -/
def flushOutcome (form : Json) (inserted now : Int) : FlushOutcome :=
  let rows := databaseRows form inserted
  let untouched := rows.rows.map TableRow.id
  let path := Flush.configurationPath (form.textAt? "arg") (variableOf? form)
  let result : Except FlushError FlushOutcome := do
    let configuration ← Flush.configure (fileAt form path) (variableOf? form)
    let flush ← Flush.ofConfiguration configuration
    let method := configuration.delivery.method
    let isOwn := configuration.storage.path == databasePath
    let (report, emitter) ← flush.run
      { backend := .table (if isOwn then rows else .empty) }
      (collectorTransport form flush.endpoint method) now
    let received := emitter.handed.reverse.filterMap (receivedForm? flush.endpoint method)
    return {
      finished := some (report.summary,
        received.mergeSort fun first second => decide (first.text ≤ second.text))
      left := if isOwn then emitter.queue.backend.ids else untouched }
  match result with
  | .ok outcome => outcome
  | .error _ => ⟨none, untouched⟩

end Telemetry.Rehearsal

import Telemetry.Delivery.Message
import Telemetry.Flush
import Telemetry.Json.Members

/-!
Contract: a flush whose messages are carried by someone else.

Owns:
- the statuses that are known so far, as a transport;
- the message that a status is still missing for;
- the line that a message is handed over in.

Does not own: carrying messages.

The messages before a missing status do not depend on it, so a flush can be run
again with one more status until none is missing.
-/

namespace Telemetry

/-- A transport whose answers are listed in the order of the requests. A request
beyond the list is not answered. -/
def Transport.ofStatuses (method : DeliveryMethod) (statuses : List (Option Nat)) :
    Transport where
  method := method
  answer := fun index request =>
    .returned ⟨(statuses[index]?).join, request.oversize, request.ids⟩

namespace Flush

/-- What comes of a flush with the statuses that are known: a message without a
status, or the end. -/
inductive Progress where
  | awaiting (message : HttpMessage)
  | finished (report : FlushReport) (emitter : Emitter)

def method (flush : Flush) : DeliveryMethod := flush.configuration.delivery.method

/-- A flush as far as the known statuses go. -/
def progress (flush : Flush) (queue : EventQueue) (statuses : List (Option Nat)) (now : Int) :
    Except FlushError Progress := do
  let (report, emitter) ← flush.run queue (.ofStatuses flush.method statuses) now
  match emitter.handed.reverse[statuses.length]? with
  | some request => return .awaiting (.ofRequest flush.method request)
  | none => return .finished report emitter

/-- The line that hands over a message: its address, its query and its body. -/
def messageLine (flush : Flush) (message : HttpMessage) : String :=
  (Json.ofPairs [
    ("url", .string (flush.endpoint.url message.method)),
    ("query", .string (String.ofList message.query)),
    ("content_type", Json.ofText? message.contentType),
    ("body", .string message.body)]).text

end Flush

end Telemetry

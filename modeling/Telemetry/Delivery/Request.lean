import Telemetry.Decimal.Digits
import Telemetry.Delivery.Config
import Telemetry.Schemas

/-!
Contract: requests made of queued events.

Owns:
- the bytes that a request costs beyond the text of its payloads;
- the grouping of events into requests, for both methods;
- the stamp that tells when a request was sent.

Does not own: the message that goes over the wire.
-/

namespace Telemetry

/-- The events that are sent together, and whether they are over the limit. -/
structure Request where
  events : List QueuedEvent
  oversize : Bool
deriving DecidableEq, Repr

namespace Request

/-- The bytes that the stamp adds to the text of a payload: a comma, the key, a
colon and thirteen digits in quotes. -/
def stampBytes : Nat := 22

/-- The bytes between two payloads. -/
def separatorBytes : Nat := 1

/-- The bytes around the payloads of a body. -/
def wrapperBytes : Nat := 88

def ids (request : Request) : List RowId := request.events.map QueuedEvent.id

def payloads (request : Request) : List Payload := request.events.map QueuedEvent.payload

/-- The request with the instant of sending in every payload. -/
def stamped (request : Request) (instant : Int) : Request :=
  { request with
    events := request.events.map fun event =>
      { event with
        payload := event.payload.insert Keys.sentTimestamp (Decimal.integerText instant) } }

def queryBytes (event : QueuedEvent) : Nat := event.payload.byteSize + stampBytes

def bodyBytes (event : QueuedEvent) : Nat :=
  event.payload.byteSize + stampBytes + separatorBytes

def ofEventsGet (limit : Nat) (events : List QueuedEvent) : List Request :=
  events.map fun event => ⟨[event], decide (limit < queryBytes event)⟩

/-- The request of a group that is not empty. -/
def ofGroup (group : List QueuedEvent) : List Request :=
  if group.isEmpty then [] else [⟨group, false⟩]

/-- Groups of at most `capacity` events that stay within the limit. `group` is
the open group, of `bytes` bytes. An event that is over the limit alone is a
request of its own and leaves the open group open. -/
def ofEventsPost
    (capacity limit : Nat) :
    (group : List QueuedEvent) → (bytes : Nat) → List QueuedEvent → List Request
  | group, _, [] => ofGroup group
  | group, bytes, event :: rest =>
    let size := bodyBytes event
    if limit < size + wrapperBytes then
      ⟨[event], true⟩ :: ofEventsPost capacity limit group bytes rest
    else if !group.isEmpty &&
        (decide (capacity ≤ group.length) ||
          decide (limit < bytes + size + wrapperBytes)) then
      ⟨group, false⟩ :: ofEventsPost capacity limit [event] size rest
    else
      ofEventsPost capacity limit (group ++ [event]) (bytes + size) rest

def ofEvents
    (method : DeliveryMethod)
    (capacity limit : Nat)
    (events : List QueuedEvent) :
    List Request :=
  match method with
  | .get => ofEventsGet limit events
  | .post => ofEventsPost (max capacity 1) limit [] 0 events

/-- The result that reports a status for the request's own rows. -/
def result (request : Request) (status : Option Nat) : RequestResult :=
  ⟨status, request.oversize, request.ids⟩

end Request

end Telemetry

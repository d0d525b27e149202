import Telemetry.Delivery.Request
import Telemetry.FormUrlEncoded

/-!
Contract: the message that carries a request to a collector.

Owns: the body of several payloads, the query of one payload, and which of them
each method uses.

Does not own: the address that the message is sent to.
-/

namespace Telemetry

/-- A message: its encoded query, the type of its body, and the body. -/
structure HttpMessage where
  method : DeliveryMethod
  query : List Char
  contentType : Option String
  body : String
deriving DecidableEq, Repr

namespace HttpMessage

def bodyJson (payloads : List Payload) : Json :=
  .object [("data", .array (payloads.map Payload.toJson)),
    ("schema", .string Schemas.payloadData)]

def queryOf : List Payload → List Char
  | [] => []
  | payload :: _ => FormUrlEncoded.encode payload.entries

def ofRequest (method : DeliveryMethod) (request : Request) : HttpMessage :=
  match method with
  | .get => ⟨.get, queryOf request.payloads, none, ""⟩
  | .post => ⟨.post, [], some "application/json", (bodyJson request.payloads).text⟩

end HttpMessage

end Telemetry

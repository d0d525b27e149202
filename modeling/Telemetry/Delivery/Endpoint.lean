import Telemetry.Delivery.Config
import Telemetry.Text.Blank
import Telemetry.Text.Quoted

/-!
Contract: where a collector is reached.

Owns: the accepted form of an endpoint, the address of requests for each
method, and the refusal.

Does not own: whether anything answers there.
-/

namespace Telemetry

/-- The base of a collector's addresses, without blanks around it and without
slashes at its end. -/
structure Endpoint where
  base : String
deriving DecidableEq, Repr

/-- An endpoint that is refused: it is no address of a web server. -/
structure EndpointError where
  base : String
deriving DecidableEq, Repr

/-- The wording of the refusal. -/
def EndpointError.message (error : EndpointError) : String :=
  "invalid collector endpoint: expected an http(s) URL, got " ++ Text.quoted error.base

namespace Endpoint

def path : DeliveryMethod → String
  | .get => "/i"
  | .post => "/com.pulse/tp2"

def ofText (text : String) : Except EndpointError Endpoint :=
  let base := Text.trimEnd '/' (Text.trim text)
  if base.startsWith "http://" || base.startsWith "https://" then
    .ok ⟨base⟩
  else
    .error ⟨base⟩

/-- The address of requests for a method. -/
def url (endpoint : Endpoint) (method : DeliveryMethod) : String := endpoint.base ++ path method

end Endpoint

end Telemetry

import Telemetry.Decimal.Digits
import Telemetry.Payload
import Telemetry.Schemas

/-!
Contract: what is known of the user and the device for every event.

Owns: the fields of a subject, their texts and the keys they are written under.

Does not own: who sets a subject.
-/

namespace Telemetry

/-- A width and a height. -/
structure Dimensions where
  width : Nat
  height : Nat
deriving DecidableEq, Repr

/-- The width and the height with an `x` between them. -/
def Dimensions.text (size : Dimensions) : String :=
  Decimal.integerText size.width ++ "x" ++ Decimal.integerText size.height

/-- A user with a device. -/
structure Subject where
  userId : Option String := none
  networkUserId : Option String := none
  domainUserId : Option String := none
  screenResolution : Option Dimensions := none
  viewport : Option Dimensions := none
  colorDepth : Option Nat := none
  language : Option String := none
  timezone : Option String := none
  ipAddress : Option String := none
  userAgent : Option String := none
deriving DecidableEq, Repr

namespace Subject

/-- The fields under their keys. -/
def entries (subject : Subject) : List (String × Option String) := [
  (Keys.userId, subject.userId),
  (Keys.networkUserId, subject.networkUserId),
  (Keys.domainUserId, subject.domainUserId),
  (Keys.resolution, subject.screenResolution.map Dimensions.text),
  (Keys.viewport, subject.viewport.map Dimensions.text),
  (Keys.colorDepth, subject.colorDepth.map fun depth => Decimal.integerText depth),
  (Keys.language, subject.language),
  (Keys.timezone, subject.timezone),
  (Keys.ipAddress, subject.ipAddress),
  (Keys.userAgent, subject.userAgent)]

def write (subject : Subject) (payload : Payload) : Payload :=
  subject.entries.foldl
    (fun payload entry => payload.insertOption entry.1 entry.2)
    payload

end Subject

end Telemetry

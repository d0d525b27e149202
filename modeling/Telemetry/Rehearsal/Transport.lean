import Telemetry.Form.Delivery

/-!
Contract: transports that answer as a form tells, to try out a set-up.

Owns: the answer by the first rule that names a row of the request, or else by
a default.

Does not own: sending anything.
-/

namespace Telemetry.Rehearsal

/-- The answer for a status: a word instead of a status breaks the sending off,
and null is no response. -/
def answerOf (status : Json) (oversize : Bool) (ids : List RowId) : Answer :=
  match status with
  | .string _ => .panicked
  | other => .returned ⟨other.asNatural?, oversize, ids⟩

def answerTo (form : Json) (request : Request) : Answer :=
  let concerns (rule : Json) : Bool :=
    match rule.integerAt? "id" with
    | some id => request.ids.contains id
    | none => false
  match (form.itemsAt "rules").find? concerns with
  | none =>
    answerOf ((form.field? "default").getD (.integer 200)) request.oversize request.ids
  | some rule =>
    answerOf (rule.memberOrNull "status") ((rule.boolAt? "oversize").getD request.oversize)
      (((rule.member? "ids").map fun listed =>
        (listed.asArray?.getD []).filterMap Json.asInteger?).getD request.ids)

/-- A transport that answers by the rules of a form. -/
def transport (method : DeliveryMethod) (form : Json) : Transport where
  method := method
  answer := fun _ request => answerTo form request

end Telemetry.Rehearsal

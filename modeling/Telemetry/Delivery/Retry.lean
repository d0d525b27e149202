import Telemetry.Entries
import Telemetry.Queue

/-!
Contract: what becomes of rows when their request has ended.

Owns: the result of a request, the rules on retrying, and the three outcomes.

Does not own: how a request is sent.
-/

namespace Telemetry

/-- How a request ended: the status of the response if there was one, whether
the request was over its limit, and the rows it carried. -/
structure RequestResult where
  status : Option Nat
  oversize : Bool
  ids : List RowId
deriving DecidableEq, Repr

/-- The status is one of 200 to 299. -/
def RequestResult.isSuccessful (result : RequestResult) : Bool :=
  match result.status with
  | none => false
  | some status => decide (200 ≤ status) && decide (status ≤ 299)

/-- What becomes of the rows of a request. -/
inductive Disposition where
  | sent
  | dropped
  | retained
deriving DecidableEq, Repr

/-- The rows leave the queue. -/
def Disposition.removesRows : Disposition → Bool
  | .sent | .dropped => true
  | .retained => false

/-- Whether failed requests are retried at all, and for single statuses whether
they are. -/
structure RetryRules where
  enabled : Bool := true
  overrides : Entries Nat Bool := []
deriving DecidableEq, Repr

namespace RetryRules

/-- The statuses that are final unless the rules say otherwise. -/
def finalStatuses : List Nat := [400, 401, 403, 410, 422]

/-- A failure with this status is retried. A failure without a response is
retried whenever retrying is enabled. -/
def retries (rules : RetryRules) (status : Option Nat) : Bool :=
  rules.enabled &&
    match status with
    | none => true
    | some code => (rules.overrides.get? code).getD !finalStatuses.contains code

/-- The outcome for the rows of a request. A request over its limit is not sent
again. -/
def disposition (rules : RetryRules) (result : RequestResult) : Disposition :=
  if result.isSuccessful then
    .sent
  else if result.oversize || !rules.retries result.status then
    .dropped
  else
    .retained

end RetryRules

end Telemetry

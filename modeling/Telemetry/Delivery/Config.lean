import Telemetry.Delivery.Retry
import Telemetry.Queue

/-!
Contract: how an emitter is set up.

Owns: the methods of delivery, the group sizes, the limits and intervals with
their usual values, and the least values an emitter works with.

Does not own: where the values are configured.
-/

namespace Telemetry

/-- How a request carries events: one in a query, or several in a body. -/
inductive DeliveryMethod where
  | get
  | post
deriving DecidableEq, Repr

/-- How many events a body carries at most. -/
inductive Grouping where
  | single
  | smallGroup
  | largeGroup
deriving DecidableEq, Repr

/-- The number of events of a group. -/
def Grouping.size : Grouping → Nat
  | .single => 1
  | .smallGroup => 10
  | .largeGroup => 25

/-- The set-up of an emitter. Spans are in milliseconds, limits of requests in
bytes. -/
structure DeliveryConfig where
  grouping : Grouping := .single
  emitRange : Nat := 150
  byteLimitGet : Nat := 40000
  byteLimitPost : Nat := 40000
  workers : Nat := 15
  retry : RetryRules := {}
  interval : Nat := 5000
  eviction : Eviction := {}
deriving DecidableEq, Repr

namespace DeliveryConfig

/-- The set-up with the least values that work: a page, the workers and the
interval are at least one. -/
def normalized (config : DeliveryConfig) : DeliveryConfig :=
  { config with
    emitRange := max config.emitRange 1
    workers := max config.workers 1
    interval := max config.interval 1 }

/-- The limit on the size of a request. -/
def byteLimit (config : DeliveryConfig) : DeliveryMethod → Nat
  | .get => config.byteLimitGet
  | .post => config.byteLimitPost

end DeliveryConfig

end Telemetry

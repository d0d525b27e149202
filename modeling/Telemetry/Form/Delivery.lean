import Telemetry.Delivery.Emitter
import Telemetry.Json.Members

/-!
Contract: the JSON forms of an emitter's set-up and reports.

Owns: the set-up in both directions, eviction limits, outcomes, and the forms of
queued events, requests and counts.

Does not own: the configuration file, which names the same settings differently.
-/

namespace Telemetry

def DeliveryMethod.ofForm (form : Json) : DeliveryMethod :=
  if form.textAt? "method" = some "get" then .get else .post

def Grouping.ofForm (form : Json) : Grouping :=
  match form.textAt? "buffer" with
  | some "small_group" => .smallGroup
  | some "large_group" => .largeGroup
  | _ => .single

/-- The limits of a form; the age is in seconds or milliseconds. -/
def Eviction.ofForm (form : Json) : Eviction where
  maxRows := form.naturalAt? "max_rows"
  maxAge := ((form.naturalAt? "max_age_secs").map (· * 1000)).or (form.naturalAt? "max_age_ms")

/-- The rules whose single statuses are listed in a form. -/
def RetryRules.ofForm (enabled : Bool) (form : Json) : RetryRules where
  enabled := enabled
  overrides := Entries.ofPairs ((form.itemsAt "overrides").filterMap fun
    | .array [.integer status, .bool retried] => some (status.toNat, retried)
    | _ => none)

/-- The set-up of a form. -/
def DeliveryConfig.ofForm (form : Json) : DeliveryConfig :=
  let usual : DeliveryConfig := {}
  { grouping := .ofForm form
    emitRange := (form.naturalAt? "emit_range").getD usual.emitRange
    byteLimitGet := (form.naturalAt? "byte_limit_get").getD usual.byteLimitGet
    byteLimitPost := (form.naturalAt? "byte_limit_post").getD usual.byteLimitPost
    workers := (form.naturalAt? "thread_pool_size").getD usual.workers
    retry := .ofForm ((form.boolAt? "retry").getD true) form
    interval := (form.naturalAt? "emit_interval_ms").getD usual.interval
    eviction := .ofForm form }

/-- The form of a set-up. -/
def DeliveryConfig.toForm (config : DeliveryConfig) : Json :=
  .ofPairs [
    ("buffer_size", .integer config.grouping.size),
    ("emit_range", .integer config.emitRange),
    ("byte_limit_get", .integer config.byteLimitGet),
    ("byte_limit_post", .integer config.byteLimitPost),
    ("thread_pool_size", .integer config.workers),
    ("retry", .bool config.retry.enabled),
    ("overrides", .array (config.retry.overrides.map fun entry =>
      .array [.integer entry.1, .bool entry.2])),
    ("emit_interval_ms", .integer config.interval),
    ("max_rows", Json.ofOption Json.ofNat config.eviction.maxRows),
    ("max_age_secs", Json.ofOption (fun age => .integer (age / 1000)) config.eviction.maxAge),
    ("unbounded", .bool config.eviction.isUnbounded)]

def Disposition.label : Disposition → String
  | .sent => "Sent"
  | .dropped => "Dropped"
  | .retained => "Retained"

def CycleReport.toForm (report : CycleReport) : Json :=
  .ofPairs [("attempted", .integer report.attempted), ("sent", .integer report.sent),
    ("dropped", .integer report.dropped), ("retained", .integer report.retained)]

def QueuedEvent.toForm (event : QueuedEvent) : Json :=
  .ofPairs [("id", .integer event.id), ("payload", event.payload.toJson)]

def RowId.listForm (ids : List RowId) : Json := .array (ids.map Json.integer)

/-- The form of a request that was handed over: its rows and their stamps. -/
def Request.toForm (request : Request) : Json :=
  .ofPairs [("ids", RowId.listForm request.ids), ("oversize", .bool request.oversize),
    ("stm", .array (request.payloads.map fun payload =>
      Json.ofText? (payload.get? Keys.sentTimestamp)))]

def RowId.listBefore : List RowId → List RowId → Bool
  | [], _ => true
  | _ :: _, [] => false
  | first :: rest, other :: others =>
    if first = other then listBefore rest others else decide (first < other)

/-- The form of requests that were sent side by side, ordered by their rows. -/
def Request.listForm (requests : List Request) : Json :=
  let sorted := requests.mergeSort fun first second => RowId.listBefore first.ids second.ids
  .array (sorted.map Request.toForm)

end Telemetry

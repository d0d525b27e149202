import Telemetry.Delivery.Request
import Telemetry.Notification
import Telemetry.Queue.Store

/-!
Contract: the state of an emitter and its drain cycles.

Owns:
- the transport, as what it answers to the requests that are handed to it;
- one cycle: eviction and reading, sending, and settling of the results;
- draining, which goes on while full pages are cleared;
- pausing, by the caller or because delivered rows could not be removed.

Does not own: when cycles are run, and the messages that a transport sends.

Requests of one cycle are sent side by side; `settle` takes their results in
any order.
-/

namespace Telemetry

/-- What a transport makes of a request: its sending breaks off, or it returns
a result. -/
inductive Answer where
  | panicked
  | returned (result : RequestResult)
deriving DecidableEq, Repr

/-- A transport: its method, and its answer to a request, which can depend on
how many requests were handed to it before. -/
structure Transport where
  method : DeliveryMethod
  answer : Nat → Request → Answer

/-- The result that counts for a request: the status is the transport's, and the
rows are the request's own. A request is over the limit if either side says so. -/
def Transport.outcome? (transport : Transport) (index : Nat) (request : Request) :
    Option RequestResult :=
  match transport.answer index request with
  | .panicked => none
  | .returned result => some {
      status := result.status
      oversize := result.oversize || request.oversize
      ids := request.ids }

/-- The results of requests that are handed over one after the other, the first
as number `index`. -/
def Transport.outcomes (transport : Transport) : (index : Nat) → List Request → List RequestResult
  | _, [] => []
  | index, request :: rest =>
    (transport.outcome? index request).toList ++ transport.outcomes (index + 1) rest

/-- Counts of rows: pulled, delivered, given up, and kept. -/
structure CycleReport where
  attempted : Nat := 0
  sent : Nat := 0
  dropped : Nat := 0
  retained : Nat := 0
deriving DecidableEq, Repr

namespace CycleReport

/-- The sums of two reports. -/
def add (first second : CycleReport) : CycleReport where
  attempted := first.attempted + second.attempted
  sent := first.sent + second.sent
  dropped := first.dropped + second.dropped
  retained := first.retained + second.retained

/-- Rows that were not delivered. -/
def failed (report : CycleReport) : Nat := report.dropped + report.retained

def count (rules : RetryRules) (report : CycleReport) (result : RequestResult) : CycleReport :=
  match rules.disposition result with
  | .sent => { report with sent := report.sent + result.ids.length }
  | .dropped => { report with dropped := report.dropped + result.ids.length }
  | .retained => { report with retained := report.retained + result.ids.length }

end CycleReport

/-- What became of a page: how many rows its requests carried, and the results
that came back. -/
structure SentPage where
  attempted : Nat
  results : List RequestResult
deriving DecidableEq, Repr

/-- Rows that trackers insert while a cycle is under way, each with its instant:
after the page was read, and after the requests were sent. -/
structure Arrivals where
  afterReading : List (Payload × Int) := []
  afterSending : List (Payload × Int) := []

/-- What an emitter holds besides the bus that it shares: its queue and set-up,
whether it is paused, and the requests it has handed over, the latest first. -/
structure Outbox where
  queue : EventQueue
  config : DeliveryConfig
  paused : Bool := false
  handed : List Request := []

/-- The outbox of an emitter that is not paused. -/
def Outbox.ofQueue (queue : EventQueue) (config : DeliveryConfig) : Outbox where
  queue := queue
  config := config.normalized

/-- An outbox with the bus that it reports to. -/
structure Emitter extends Outbox where
  bus : Bus

namespace Emitter

/-- Stops further cycles; a running emitter says why. -/
def pause (emitter : Emitter) (reason : String) : Emitter :=
  if emitter.paused then
    emitter
  else
    { emitter with paused := true, bus := emitter.bus.publish (.emitterPaused reason) }

/-- The reason that a pause by the caller gives. -/
def callerReason : String := "paused by caller"

/-- Lets cycles run again. -/
def resume (emitter : Emitter) : Emitter := { emitter with paused := false }

def readRows (emitter : Emitter) : Option (List QueuedEvent) × Emitter :=
  let (answer, queue) := emitter.queue.emittable emitter.config.emitRange
  (answer.toOption, { emitter with queue := queue })

/-- Evicts rows past the limits, if there are any, and reads a page. Nothing is
answered if either fails. -/
def readPage (emitter : Emitter) (now : Int) : Option (List QueuedEvent) × Emitter :=
  if emitter.config.eviction.isUnbounded then
    emitter.readRows
  else
    match emitter.queue.evict emitter.config.eviction now with
    | (.error _, queue) => (none, { emitter with queue := queue })
    | (.ok _, queue) => { emitter with queue := queue }.readRows

/-- Takes in rows that were inserted meanwhile. -/
def accept (emitter : Emitter) (arrived : List (Payload × Int)) : Emitter :=
  { emitter with queue := emitter.queue.insertAll arrived }

def requestsOf (emitter : Emitter) (method : DeliveryMethod) (page : List QueuedEvent) :
    List Request :=
  Request.ofEvents method emitter.config.grouping.size (emitter.config.byteLimit method) page

def dispatch (emitter : Emitter) (transport : Transport) (now : Int) (requests : List Request) :
    List RequestResult × Emitter :=
  let stamped := requests.map fun request => request.stamped now
  let results := transport.outcomes emitter.handed.length stamped
  (results, { emitter with handed := stamped.reverse ++ emitter.handed })

/-- The rows that leave the queue for some results. -/
def settledIds (rules : RetryRules) (results : List RequestResult) : List RowId :=
  results.flatMap fun result =>
    if (rules.disposition result).removesRows then result.ids else []

/-- Why the emitter pauses when rows could not be removed. -/
def removalReason (count : Nat) (cause : QueueError) : String :=
  "failed to remove " ++ Decimal.integerText count ++ " delivered rows: " ++ cause.message

/-- Removes rows, if any are named. -/
def removeRows (emitter : Emitter) (ids : List RowId) : Except QueueError Unit × Emitter :=
  if ids.isEmpty then
    (.ok (), emitter)
  else
    let (answer, queue) := emitter.queue.remove ids
    (answer.map fun _ => (), { emitter with queue := queue })

/-- Removes settled rows. If that fails the emitter pauses, so that the rows are
not delivered once more. -/
def removeSettled (emitter : Emitter) (ids : List RowId) : Emitter :=
  match emitter.removeRows ids with
  | (.ok _, emitter) => emitter
  | (.error cause, emitter) => emitter.pause (removalReason ids.length cause)

/-- The counts of a cycle that pulled `attempted` rows. -/
def tally (rules : RetryRules) (attempted : Nat) (results : List RequestResult) : CycleReport :=
  results.foldl (CycleReport.count rules) { attempted := attempted }

def sendPage (emitter : Emitter) (transport : Transport) (now : Int) (page : List QueuedEvent) :
    SentPage × Emitter :=
  let requests := emitter.requestsOf transport.method page
  let (results, emitter) := emitter.dispatch transport now requests
  (⟨(requests.flatMap Request.ids).length, results⟩, emitter)

/-- Acts on the results of a page and reports the counts. -/
def settle (emitter : Emitter) (sent : SentPage) : CycleReport × Emitter :=
  let report := tally emitter.config.retry sent.attempted sent.results
  let removed := emitter.removeSettled (settledIds emitter.config.retry sent.results)
  (report,
    { removed with bus := removed.bus.publish (.requestsCompleted report.sent report.failed) })

/-- One cycle. Nothing is answered if the queue could not be read. -/
def cycle (emitter : Emitter) (transport : Transport) (now : Int) (arrivals : Arrivals) :
    Option CycleReport × Emitter :=
  match emitter.readPage now with
  | (none, emitter) => (none, (emitter.accept arrivals.afterReading).accept arrivals.afterSending)
  | (some [], emitter) =>
    (some {}, (emitter.accept arrivals.afterReading).accept arrivals.afterSending)
  | (some page, emitter) =>
    let (sent, emitter) := (emitter.accept arrivals.afterReading).sendPage transport now page
    let (report, emitter) := (emitter.accept arrivals.afterSending).settle sent
    (some report, emitter)

/-- A drain goes on after a cycle that pulled a full page and kept no row. -/
def goesOn (config : DeliveryConfig) (report : CycleReport) : Bool :=
  decide (0 < report.attempted) && decide (config.emitRange ≤ report.attempted) &&
    decide (report.retained = 0)

/-- Runs cycles, at most so many, while the emitter is running and each clears a full
page. Each cycle reads the clock. The answer sums their counts. There is none if the
drain would still go on. -/
def drainWithin (transport : Transport) :
    (clock : Time.Clock) → (cycles : Nat) → Emitter → Option (CycleReport × Emitter)
  | _, 0, emitter => if emitter.paused then some ({}, emitter) else none
  | clock, cycles + 1, emitter =>
    if emitter.paused then
      some ({}, emitter)
    else
      match emitter.cycle transport clock.now {} with
      | (none, emitter) => some ({}, emitter)
      | (some report, emitter) =>
        if goesOn emitter.config report then
          (drainWithin transport clock.later cycles emitter).map fun rest =>
            (report.add rest.1, rest.2)
        else
          some (report, emitter)

/-- More cycles than any drain lives to run, were there one in each nanosecond. -/
def endlessCycles : Nat := 18446744073709551616

def drain (emitter : Emitter) (transport : Transport) (clock : Time.Clock) :
    CycleReport × Emitter :=
  (drainWithin transport clock endlessCycles emitter).getD ({}, emitter)

end Emitter

end Telemetry

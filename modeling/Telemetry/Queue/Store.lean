import Telemetry.Queue.Memory
import Telemetry.Queue.Table

/-!
Contract: the event queue that trackers fill and emitters empty.

Owns:
- the choice between memory and a table;
- outages: which calls the queue refuses, by kind and by how many calls were
  made before.

Does not own: when an emitter reads or removes rows.
-/

namespace Telemetry

/-- How the rows are kept. -/
inductive QueueBackend where
  | memory (queue : MemoryQueue)
  | table (queue : TableQueue)
deriving Repr

namespace QueueBackend

/-- The rows that hold a payload, oldest first. -/
def rows : QueueBackend → List QueueRow
  | .memory queue => queue.rows
  | .table queue => queue.rows.filterMap fun row =>
    (Payload.parse? row.text).map fun payload => ⟨row.id, payload, row.insertedAt⟩

def insert : QueueBackend → Payload → Int → Except QueueError (RowId × QueueBackend)
  | .memory queue, payload, instant =>
    let (id, queue) := queue.insert payload instant
    .ok (id, .memory queue)
  | .table queue, payload, instant =>
    (queue.insert payload instant).map fun answer => (answer.1, .table answer.2)

def emittable : QueueBackend → Nat → Except QueueError (List QueuedEvent × QueueBackend)
  | .memory queue, limit => .ok (queue.emittable limit, .memory queue)
  | .table queue, limit =>
    (queue.emittable limit).map fun answer => (answer.1, .table answer.2)

def remove : QueueBackend → List RowId → Except QueueError (Nat × QueueBackend)
  | .memory queue, ids =>
    let (removed, queue) := queue.remove ids
    .ok (removed, .memory queue)
  | .table queue, ids =>
    (queue.remove ids).map fun answer => (answer.1, .table answer.2)

def removeAll : QueueBackend → Except QueueError (Nat × QueueBackend)
  | .memory queue =>
    let (removed, queue) := queue.removeAll
    .ok (removed, .memory queue)
  | .table queue => queue.removeAll.map fun answer => (answer.1, .table answer.2)

def count : QueueBackend → Except QueueError Nat
  | .memory queue => .ok queue.count
  | .table queue => queue.count

def evict : QueueBackend → Eviction → Int → Except QueueError (Nat × QueueBackend)
  | .memory queue, eviction, now =>
    let (removed, queue) := queue.evict eviction now
    .ok (removed, .memory queue)
  | .table queue, eviction, now =>
    (queue.evict eviction now).map fun answer => (answer.1, .table answer.2)

/-- The numbers of the rows, readable or not. -/
def ids : QueueBackend → List RowId
  | .memory queue => queue.rows.map QueueRow.id
  | .table queue => queue.rows.map TableRow.id

/-- The number of rows, readable or not. -/
def size : QueueBackend → Nat
  | .memory queue => queue.stored.size
  | .table queue => (queue.stored.getD #[]).size

end QueueBackend

/-- The kinds of call that can be refused. -/
inductive QueueCall where
  | insert
  | read
  | remove
  | evict
deriving DecidableEq, Repr

/-- A queue with its outages: `refuses` is told the kind of call and how many
calls were made before it. -/
structure EventQueue where
  backend : QueueBackend
  refuses : QueueCall → Nat → Bool := fun _ _ => false
  calls : Nat := 0

namespace EventQueue

/-- The reason a refused call gives. -/
def outage : QueueError := .refused "disk full"

def called (queue : EventQueue) : EventQueue := { queue with calls := queue.calls + 1 }

/-- A call of a kind that can be refused: it leaves the rows alone if it is. -/
def guarded {α : Type}
    (queue : EventQueue)
    (call : QueueCall)
    (act : QueueBackend → Except QueueError (α × QueueBackend)) :
    Except QueueError α × EventQueue :=
  if queue.refuses call queue.calls then
    (.error outage, queue.called)
  else
    match act queue.backend with
    | .error cause => (.error cause, queue.called)
    | .ok (answer, backend) => (.ok answer, { queue.called with backend := backend })

/-- Appends a payload; the answer is the number of its row. -/
def insert (queue : EventQueue) (payload : Payload) (instant : Int) :
    Except QueueError RowId × EventQueue :=
  queue.guarded .insert fun backend => backend.insert payload instant

/-- Inserts payloads one after the other, each at its instant. -/
def insertAll (queue : EventQueue) (arrived : List (Payload × Int)) : EventQueue :=
  arrived.foldl (fun queue row => (queue.insert row.1 row.2).2) queue

/-- Reads the oldest `limit` events. -/
def emittable (queue : EventQueue) (limit : Nat) :
    Except QueueError (List QueuedEvent) × EventQueue :=
  queue.guarded .read fun backend => backend.emittable limit

def remove (queue : EventQueue) (ids : List RowId) : Except QueueError Nat × EventQueue :=
  queue.guarded .remove fun backend => backend.remove ids

/-- Evicts rows past the limits. -/
def evict (queue : EventQueue) (eviction : Eviction) (now : Int) :
    Except QueueError Nat × EventQueue :=
  queue.guarded .evict fun backend => backend.evict eviction now

end EventQueue

end Telemetry

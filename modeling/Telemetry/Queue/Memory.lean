import Std.Data.HashSet
import Telemetry.Queue

/-!
Contract: a queue of built events that is kept in process memory.

Owns: insertion, reading, removal by number, and eviction.

Does not own: failures; no call on memory fails.
-/

namespace Telemetry

/-- Rows in the order of insertion, and the number that was used last. -/
structure MemoryQueue where
  stored : Array QueueRow
  lastId : RowId
  numbered : Numbered (stored.toList.map QueueRow.id) lastId
deriving Repr

namespace MemoryQueue

def empty : MemoryQueue := ⟨#[], 0, .nil⟩

/-- The rows, oldest first. -/
def rows (queue : MemoryQueue) : List QueueRow := queue.stored.toList

def keeping
    (queue : MemoryQueue)
    (kept : Array QueueRow)
    (sub : kept.toList.Sublist queue.rows) :
    MemoryQueue :=
  { queue with stored := kept, numbered := queue.numbered.sublist (sub.map QueueRow.id) }

theorem rows_keeping
    (queue : MemoryQueue)
    (kept : Array QueueRow)
    (sub : kept.toList.Sublist queue.rows) :
    (queue.keeping kept sub).rows = kept.toList := rfl

/-- Appends a payload; the answer is the number of its row. -/
def insert (queue : MemoryQueue) (payload : Payload) (instant : Int) : RowId × MemoryQueue :=
  let id := queue.lastId + 1
  (id, ⟨queue.stored.push ⟨id, payload, instant⟩, id, by
    simpa using queue.numbered.append_next⟩)

/-- The oldest `limit` events. -/
def emittable (queue : MemoryQueue) (limit : Nat) : List QueuedEvent :=
  (queue.stored.extract 0 limit).toList.map QueueRow.event

/-- Removes the named rows; the answer is how many there were. -/
def remove (queue : MemoryQueue) (ids : List RowId) : Nat × MemoryQueue :=
  let named := Std.HashSet.ofList ids
  let kept := queue.stored.filter fun row => !named.contains row.id
  (queue.stored.size - kept.size, queue.keeping kept (by
    rw [Array.toList_filter]
    exact List.filter_sublist))

/-- Removes all rows; the answer is how many there were. -/
def removeAll (queue : MemoryQueue) : Nat × MemoryQueue :=
  (queue.stored.size, queue.keeping #[] (List.nil_sublist _))

def count (queue : MemoryQueue) : Nat := queue.stored.size

/-- Drops the oldest rows until at most the number that is kept are left. -/
def keepLatest (eviction : Eviction) (stored : Array QueueRow) : Array QueueRow :=
  match eviction.maxRows with
  | none => stored
  | some most => stored.extract (stored.size - most) stored.size

theorem toList_keepLatest (eviction : Eviction) (stored : Array QueueRow) :
    (keepLatest eviction stored).toList = eviction.latest stored.toList := by
  obtain ⟨maxRows, maxAge⟩ := eviction
  cases maxRows with
  | none => rfl
  | some most =>
    simp only [keepLatest, Eviction.latest, Array.toList_extract, List.extract_eq_take_drop]
    exact List.take_of_length_le (by simp)

/-- Removes the rows that are too old, and then the oldest beyond the number of
rows that are kept. The answer is how many were removed. -/
def evict (queue : MemoryQueue) (eviction : Eviction) (now : Int) : Nat × MemoryQueue :=
  let young := queue.stored.filter fun row => eviction.keepsAge now row.insertedAt
  let kept := keepLatest eviction young
  (queue.stored.size - kept.size, queue.keeping kept (by
    rw [toList_keepLatest, Array.toList_filter]
    exact (eviction.latest_sublist _).trans List.filter_sublist))

end MemoryQueue

end Telemetry

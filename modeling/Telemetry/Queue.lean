import Telemetry.Payload
import Telemetry.Time.Millis

/-!
Contract: the words of a queue of built events.

Owns:
- row identifiers, queued events, and rows with their insertion instant;
- the order of the numbers, which every queue keeps;
- the eviction limits and the instant before which a row is too old;
- the causes of failure and their wording.

Does not own: how a queue keeps its rows.
-/

namespace Telemetry

/-- The number of a row. Rows are numbered from 1 in the order of insertion, and
no number is used twice. -/
abbrev RowId := Int

/-- A built event with the number of its row. -/
structure QueuedEvent where
  id : RowId
  payload : Payload
deriving DecidableEq, Repr

/-- A queued event with the instant at which it was inserted. -/
structure QueueRow where
  id : RowId
  payload : Payload
  insertedAt : Int
deriving DecidableEq, Repr

def QueueRow.event (row : QueueRow) : QueuedEvent := ⟨row.id, row.payload⟩

/-- The numbers of rows ascend strictly, and none is past the number that was used
last. -/
structure Numbered (ids : List RowId) (last : RowId) : Prop where
  ascending : ids.Pairwise (· < ·)
  bounded : ∀ id ∈ ids, id ≤ last

namespace Numbered

theorem nil : Numbered [] 0 := ⟨List.Pairwise.nil, by simp⟩

/-- Removing rows keeps the order of the others. -/
theorem sublist
    {ids kept : List RowId}
    {last : RowId}
    (numbered : Numbered ids last)
    (sub : kept.Sublist ids) :
    Numbered kept last :=
  ⟨numbered.ascending.sublist sub, fun id member => numbered.bounded id (sub.subset member)⟩

/-- The next number goes to the end. -/
theorem append_next
    {ids : List RowId}
    {last : RowId}
    (numbered : Numbered ids last) :
    Numbered (ids ++ [last + 1]) (last + 1) := by
  constructor
  · refine List.pairwise_append.mpr ⟨numbered.ascending, List.pairwise_singleton _ _, ?_⟩
    intro id member next isNext
    rw [List.mem_singleton.mp isNext]
    exact Int.lt_add_one_of_le (numbered.bounded id member)
  · intro id member
    rcases List.mem_append.mp member with old | new
    · exact Int.le_add_one (numbered.bounded id old)
    · exact Int.le_of_eq (List.mem_singleton.mp new)

/-- No number is used twice. -/
theorem nodup {ids : List RowId} {last : RowId} (numbered : Numbered ids last) : ids.Nodup :=
  numbered.ascending.imp fun less => Int.ne_of_lt less

instance (ids : List RowId) (last : RowId) : Decidable (Numbered ids last) :=
  decidable_of_iff (ids.Pairwise (· < ·) ∧ ∀ id ∈ ids, id ≤ last)
    ⟨fun ⟨ascending, bounded⟩ => ⟨ascending, bounded⟩,
      fun ⟨ascending, bounded⟩ => ⟨ascending, bounded⟩⟩

end Numbered

/-- Limits that rows are evicted by: how many rows are kept, and how long a row
is kept in milliseconds. -/
structure Eviction where
  maxRows : Option Nat := none
  maxAge : Option Nat := none
deriving DecidableEq, Repr

namespace Eviction

/-- No limit is set. -/
def isUnbounded (eviction : Eviction) : Bool :=
  eviction.maxRows.isNone && eviction.maxAge.isNone

/-- Rows that were inserted before this instant are too old. -/
def cutoff (now : Int) (maxAge : Nat) : Int :=
  Time.clampInstant (now - Time.spanMillis maxAge)

/-- The last of the rows, as many as are kept. -/
def latest {ρ : Type} (eviction : Eviction) (rows : List ρ) : List ρ :=
  match eviction.maxRows with
  | none => rows
  | some most => rows.drop (rows.length - most)

theorem latest_sublist {ρ : Type} (eviction : Eviction) (rows : List ρ) :
    (eviction.latest rows).Sublist rows := by
  unfold latest
  split
  · exact List.Sublist.refl _
  · exact List.drop_sublist _ _

theorem latest_map {ρ σ : Type} (eviction : Eviction) (change : ρ → σ) (rows : List ρ) :
    eviction.latest (rows.map change) = (eviction.latest rows).map change := by
  unfold latest
  split <;> simp

/-- A row inserted at `insertedAt` is young enough. -/
def keepsAge (eviction : Eviction) (now insertedAt : Int) : Bool :=
  match eviction.maxAge with
  | none => true
  | some maxAge => decide (cutoff now maxAge ≤ insertedAt)

end Eviction

/-- Why a call fails: the queue refuses it, its table is gone, or it names more
rows than one statement can. -/
inductive QueueError where
  | refused (reason : String)
  | noTable
  | tooManyRows
deriving DecidableEq, Repr

/-- The wording of a cause. -/
def QueueError.message : QueueError → String
  | .refused reason => "event store unavailable: " ++ reason
  | .noTable => "event store database error: no such table: events"
  | .tooManyRows => "event store database error: too many SQL variables"

end Telemetry

import Std.Data.HashSet
import Telemetry.Queue

/-!
Contract: a queue of built events that is kept in a database table as text.

Owns:
- insertion, reading by pages, removal by number, and eviction;
- what happens to a row whose text is no payload: reading passes over it and
  removes it;
- the failures: a table that is gone, and a statement that names too many rows.

Does not own: the database that holds the table.
-/

namespace Telemetry

structure TableRow where
  id : RowId
  text : String
  insertedAt : Int
deriving DecidableEq, Repr

namespace TableRow

/-- The event of a row whose text is a payload. -/
def event? (row : TableRow) : Option QueuedEvent :=
  (Payload.parse? row.text).map fun payload => ⟨row.id, payload⟩

end TableRow

/-- The events of the readable rows, and the numbers of the other rows. -/
structure QueuePage where
  events : List QueuedEvent
  unreadable : List RowId
deriving DecidableEq, Repr

namespace QueuePage

def empty : QueuePage := ⟨[], []⟩

/-- Sorts rows by whether they are readable. -/
def ofRows : List TableRow → QueuePage
  | [] => empty
  | row :: rest =>
    let page := ofRows rest
    match row.event? with
    | some event => { page with events := event :: page.events }
    | none => { page with unreadable := row.id :: page.unreadable }

def append (first second : QueuePage) : QueuePage :=
  ⟨first.events ++ second.events, first.unreadable ++ second.unreadable⟩

end QueuePage

/-- Reads pages of rows until `want` events are found or the rows end. Each page
has as many rows as events are still wanted. -/
def readPages (rows : List TableRow) (want : Nat) : QueuePage :=
  if 0 < want then
    let page := QueuePage.ofRows (rows.take want)
    if want ≤ rows.length then
      page.append (readPages (rows.drop want) (want - page.events.length))
    else
      page
  else
    .empty
termination_by rows.length
decreasing_by
  simp only [List.length_drop]
  omega

/-- The rows in the order of insertion, or nothing if there is no such table, and
the number that was used last. -/
structure TableQueue where
  stored : Option (Array TableRow)
  lastId : RowId
  numbered : Numbered ((stored.getD #[]).toList.map TableRow.id) lastId
deriving Repr

namespace TableQueue

def empty : TableQueue := ⟨some #[], 0, .nil⟩

def dropped : TableQueue := ⟨none, 0, .nil⟩

/-- The rows, oldest first. -/
def rows (queue : TableQueue) : List TableRow := (queue.stored.getD #[]).toList

theorem rows_of_stored
    {queue : TableQueue}
    {stored : Array TableRow}
    (present : queue.stored = some stored) :
    queue.rows = stored.toList := by
  rw [rows, present, Option.getD_some]

def keeping
    (queue : TableQueue)
    (kept : Array TableRow)
    (sub : kept.toList.Sublist queue.rows) :
    TableQueue :=
  { queue with stored := some kept, numbered := queue.numbered.sublist (sub.map TableRow.id) }

theorem rows_keeping
    (queue : TableQueue)
    (kept : Array TableRow)
    (sub : kept.toList.Sublist queue.rows) :
    (queue.keeping kept sub).rows = kept.toList := rfl

/-- The most rows that one statement can name. -/
def statementLimit : Nat := 32766

/-- Appends a text as it is; the answer is the number of its row. -/
def insertText (queue : TableQueue) (text : String) (instant : Int) :
    Except QueueError (RowId × TableQueue) :=
  match queue with
  | ⟨none, _, _⟩ => .error .noTable
  | ⟨some stored, lastId, numbered⟩ =>
    .ok (lastId + 1, ⟨some (stored.push ⟨lastId + 1, text, instant⟩), lastId + 1, by
      simpa using numbered.append_next⟩)

/-- Appends a payload; the answer is the number of its row. -/
def insert (queue : TableQueue) (payload : Payload) (instant : Int) :
    Except QueueError (RowId × TableQueue) :=
  queue.insertText payload.text instant

/-- Removes the named rows with one statement; the answer is how many there
were. -/
def delete (queue : TableQueue) (ids : List RowId) : Except QueueError (Nat × TableQueue) :=
  match present : queue.stored with
  | none => .error .noTable
  | some stored =>
    if statementLimit < ids.length then
      .error .tooManyRows
    else
      let named := Std.HashSet.ofList ids
      let kept := stored.filter fun row => !named.contains row.id
      .ok (stored.size - kept.size, queue.keeping kept (by
        rw [Array.toList_filter, rows_of_stored present]
        exact List.filter_sublist))

/-- The oldest `limit` events. Unreadable rows before the last of them, or all
if there are fewer events, are removed. -/
def emittable (queue : TableQueue) (limit : Nat) :
    Except QueueError (List QueuedEvent × TableQueue) :=
  match queue.stored with
  | none => .error .noTable
  | some stored =>
    let page := readPages stored.toList limit
    if page.unreadable.isEmpty then
      .ok (page.events, queue)
    else
      (queue.delete page.unreadable).map fun answer => (page.events, answer.2)

/-- Removes the named rows; the answer is how many there were. Naming none needs
no statement. -/
def remove (queue : TableQueue) (ids : List RowId) : Except QueueError (Nat × TableQueue) :=
  if ids.isEmpty then
    .ok (0, queue)
  else
    queue.delete ids

/-- Removes all rows; the answer is how many there were. -/
def removeAll (queue : TableQueue) : Except QueueError (Nat × TableQueue) :=
  match queue.stored with
  | none => .error .noTable
  | some stored => .ok (stored.size, queue.keeping #[] (List.nil_sublist _))

def count (queue : TableQueue) : Except QueueError Nat :=
  match queue.stored with
  | none => .error .noTable
  | some stored => .ok stored.size

/-- The numbers of the latest `most` rows. -/
def latestIds (stored : Array TableRow) (most : Nat) : List RowId :=
  (stored.toList.reverse.take most).map TableRow.id

/-- Keeps the rows that are among the latest. -/
def keepLatest (eviction : Eviction) (stored : Array TableRow) : Array TableRow :=
  match eviction.maxRows with
  | none => stored
  | some most =>
    let kept := Std.HashSet.ofList (latestIds stored most)
    stored.filter fun row => kept.contains row.id

theorem keepLatest_sublist (eviction : Eviction) (stored : Array TableRow) :
    (keepLatest eviction stored).toList.Sublist stored.toList := by
  unfold keepLatest
  split
  · exact List.Sublist.refl _
  · rw [Array.toList_filter]
    exact List.filter_sublist

/-- Removes the rows that are too old, and then those that are not among the
latest, in one transaction. The answer is how many were removed. Without limits
no statement is needed. -/
def evict (queue : TableQueue) (eviction : Eviction) (now : Int) :
    Except QueueError (Nat × TableQueue) :=
  if eviction.isUnbounded then
    .ok (0, queue)
  else
    match present : queue.stored with
    | none => .error .noTable
    | some stored =>
      let young := stored.filter fun row => eviction.keepsAge now row.insertedAt
      let kept := keepLatest eviction young
      .ok (stored.size - kept.size, queue.keeping kept (by
        have youngSublist : young.toList.Sublist queue.rows := by
          rw [Array.toList_filter, rows_of_stored present]
          exact List.filter_sublist
        exact (keepLatest_sublist _ _).trans youngSublist))

end TableQueue

end Telemetry

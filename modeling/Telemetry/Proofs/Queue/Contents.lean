import Telemetry.Queue.Store

/-!
Contract: the rows of an event queue as one list, whether memory or a table
keeps them.

Owns:
- what a row holds, and the event that it can be read as;
- the page that reading finds and the rows that reading leaves, both by recursion
  over the rows;
- one law for each operation: what it answers and which rows it leaves.

Does not own: outages, and when the operations are called.
-/

namespace Telemetry

/-- What a row holds: a payload, or a text that need not be one. -/
inductive RowContent where
  | payload (payload : Payload)
  | text (text : String)
deriving DecidableEq, Repr

/-- A row of either kind of queue. -/
structure StoredRow where
  id : RowId
  content : RowContent
  insertedAt : Int
deriving DecidableEq, Repr

/-- The event of a row, unless its text is no payload. -/
def StoredRow.event? (row : StoredRow) : Option QueuedEvent :=
  match row.content with
  | .payload payload => some ⟨row.id, payload⟩
  | .text text => (Payload.parse? text).map fun payload => ⟨row.id, payload⟩

theorem StoredRow.id_of_event?
    {row : StoredRow}
    {event : QueuedEvent}
    (readable : row.event? = some event) :
    event.id = row.id := by
  unfold StoredRow.event? at readable
  split at readable
  · rw [← Option.some.inj readable]
  · obtain ⟨payload, _, same⟩ := Option.map_eq_some_iff.mp readable
    rw [← same]

def QueueRow.asStored (row : QueueRow) : StoredRow := ⟨row.id, .payload row.payload, row.insertedAt⟩

def TableRow.asStored (row : TableRow) : StoredRow := ⟨row.id, .text row.text, row.insertedAt⟩

/-! ### Reading a page -/

/-- The oldest events that can be read, at most `want`. -/
def firstEvents (want : Nat) (rows : List StoredRow) : List QueuedEvent :=
  (rows.filterMap StoredRow.event?).take want

/-- The rows that reading leaves: unreadable rows go until `want` events were
found. -/
def afterReading : (want : Nat) → List StoredRow → List StoredRow
  | 0, rows => rows
  | _ + 1, [] => []
  | want + 1, row :: rest =>
    if row.event?.isSome then
      row :: afterReading want rest
    else
      afterReading (want + 1) rest

theorem afterReading_sublist (want : Nat) (rows : List StoredRow) :
    (afterReading want rows).Sublist rows := by
  fun_induction afterReading want rows with
  | case1 rows => exact List.Sublist.refl _
  | case2 => exact List.Sublist.refl _
  | case3 want row rest _ inductionHypothesis => exact inductionHypothesis.cons_cons row
  | case4 want row rest _ inductionHypothesis => exact inductionHypothesis.cons row

theorem afterReading_of_readable
    (want : Nat)
    (rows : List StoredRow)
    (readable : ∀ row ∈ rows, row.event?.isSome) :
    afterReading want rows = rows := by
  fun_induction afterReading want rows with
  | case1 rows => rfl
  | case2 => rfl
  | case3 want row rest _ inductionHypothesis =>
      rw [inductionHypothesis fun other member => readable other (List.mem_cons_of_mem _ member)]
  | case4 want row rest unreadable _ => exact absurd (readable row (by simp)) unreadable

/-- The events of a page are numbered as rows that reading leaves. -/
theorem firstEvents_ids_sublist (want : Nat) (rows : List StoredRow) :
    ((firstEvents want rows).map QueuedEvent.id).Sublist
      ((afterReading want rows).map StoredRow.id) := by
  fun_induction afterReading want rows with
  | case1 rows => simp [firstEvents]
  | case2 => simp [firstEvents]
  | case3 want row rest readable inductionHypothesis =>
      obtain ⟨event, isEvent⟩ := Option.isSome_iff_exists.mp readable
      have sameId := StoredRow.id_of_event? isEvent
      simp only [firstEvents, List.filterMap_cons, isEvent, List.take_succ_cons, List.map_cons,
        sameId]
      exact inductionHypothesis.cons_cons row.id
  | case4 want row rest unreadable inductionHypothesis =>
      have isNone : row.event? = none := by simpa using unreadable
      simpa only [firstEvents, List.filterMap_cons, isNone] using inductionHypothesis

/-! ### Pages of a table -/

namespace QueuePage

theorem ofRows_events (rows : List TableRow) :
    (ofRows rows).events = rows.filterMap TableRow.event? := by
  induction rows with
  | nil => rfl
  | cons row rest inductionHypothesis =>
      cases readable : row.event? <;> simp [ofRows, readable, inductionHypothesis]

end QueuePage

/-- The numbers of the unreadable rows that are met before `want` events were
found. -/
def unreadableIds : (want : Nat) → List TableRow → List RowId
  | 0, _ => []
  | _ + 1, [] => []
  | want + 1, row :: rest =>
    match row.event? with
    | some _ => unreadableIds want rest
    | none => row.id :: unreadableIds (want + 1) rest

theorem unreadableIds_subset (want : Nat) (rows : List TableRow) :
    ∀ id ∈ unreadableIds want rows, id ∈ rows.map TableRow.id := by
  fun_induction unreadableIds want rows with
  | case1 => simp
  | case2 => simp
  | case3 want row rest _ _ inductionHypothesis =>
      intro id member
      exact List.mem_cons_of_mem _ (inductionHypothesis id member)
  | case4 want row rest _ inductionHypothesis =>
      intro id member
      rcases List.mem_cons.mp member with isRow | inRest
      · simp [isRow]
      · exact List.mem_cons_of_mem _ (inductionHypothesis id inRest)

/-- A page of at most `want` rows, and what reading goes on with after it. -/
theorem unreadableIds_split (page rest : List TableRow) (want : Nat) (fits : page.length ≤ want) :
    unreadableIds want (page ++ rest) =
      (QueuePage.ofRows page).unreadable ++
        unreadableIds (want - (QueuePage.ofRows page).events.length) rest := by
  induction page generalizing want with
  | nil => rfl
  | cons row others inductionHypothesis =>
      obtain ⟨less, rfl⟩ : ∃ less, want = less + 1 := ⟨want - 1, by simp at fits; omega⟩
      have othersFit : others.length ≤ less := by simpa using fits
      cases readable : row.event? with
      | some event =>
          simp only [List.cons_append, unreadableIds, QueuePage.ofRows, readable,
            List.length_cons, Nat.add_sub_add_right]
          exact inductionHypothesis less othersFit
      | none =>
          simp only [List.cons_append, unreadableIds, QueuePage.ofRows, readable]
          rw [inductionHypothesis (less + 1) (by omega)]

theorem readPages_events (rows : List TableRow) (want : Nat) :
    (readPages rows want).events = (rows.filterMap TableRow.event?).take want := by
  fun_induction readPages rows want with
  | case1 rows want positive page full inductionHypothesis =>
      have parts : rows.filterMap TableRow.event? =
          page.events ++ (rows.drop want).filterMap TableRow.event? := by
        rw [QueuePage.ofRows_events, ← List.filterMap_append, List.take_append_drop]
      have fits : page.events.length ≤ want := by
        rw [QueuePage.ofRows_events]
        exact Nat.le_trans (List.length_filterMap_le _ _) (List.length_take_le _ _)
      rw [QueuePage.append, inductionHypothesis, parts, List.take_append,
        List.take_of_length_le fits]
  | case2 rows want positive page short =>
      have all : rows.take want = rows := List.take_of_length_le (by omega)
      have fits : (rows.filterMap TableRow.event?).length ≤ want :=
        Nat.le_trans (List.length_filterMap_le _ _) (by omega)
      rw [show page = QueuePage.ofRows rows by rw [← all], QueuePage.ofRows_events,
        List.take_of_length_le fits]
  | case3 rows want notPositive =>
      rw [show want = 0 by omega]
      rfl

theorem readPages_unreadable (rows : List TableRow) (want : Nat) :
    (readPages rows want).unreadable = unreadableIds want rows := by
  fun_induction readPages rows want with
  | case1 rows want positive page full inductionHypothesis =>
      have split := unreadableIds_split (rows.take want) (rows.drop want) want
        (List.length_take_le _ _)
      rw [List.take_append_drop] at split
      rw [split, QueuePage.append, inductionHypothesis]
  | case2 rows want positive page short =>
      have all : rows.take want = rows := List.take_of_length_le (by omega)
      have split := unreadableIds_split rows [] want (by omega)
      rw [List.append_nil] at split
      have ended : ∀ less, unreadableIds less [] = [] := by
        intro less
        cases less <;> rfl
      rw [split, ended, List.append_nil, show page = QueuePage.ofRows rows by rw [← all]]
  | case3 rows want notPositive =>
      rw [show want = 0 by omega, unreadableIds]
      rfl

/-- Deleting the unreadable rows of a page is reading it. -/
theorem afterReading_asStored
    (want : Nat)
    (rows : List TableRow)
    (nodup : (rows.map TableRow.id).Nodup) :
    afterReading want (rows.map TableRow.asStored) =
      (rows.filter fun row => row.id ∉ unreadableIds want rows).map TableRow.asStored := by
  fun_induction unreadableIds want rows with
  | case1 rows => rw [afterReading, List.filter_eq_self.mpr (by simp)]
  | case2 => simp [afterReading]
  | case3 want row rest event readable inductionHypothesis =>
      obtain ⟨fresh, restNodup⟩ := List.nodup_cons.mp nodup
      have kept : row.id ∉ unreadableIds want rest := fun member =>
        fresh (unreadableIds_subset want rest row.id member)
      have isSome : row.asStored.event?.isSome := Option.isSome_of_eq_some readable
      simp [afterReading, isSome, kept, inductionHypothesis restNodup]
  | case4 want row rest unreadable inductionHypothesis =>
      obtain ⟨fresh, restNodup⟩ := List.nodup_cons.mp nodup
      have isNone : row.asStored.event? = none := unreadable
      have others : ∀ other ∈ rest, other.id ≠ row.id := by
        intro other member same
        exact fresh (same ▸ List.mem_map_of_mem member)
      simp only [List.map_cons, afterReading, isNone, Option.isSome_none, Bool.false_eq_true,
        if_false, inductionHypothesis restNodup]
      rw [List.filter_cons_of_neg (by simp)]
      congr 1
      refine List.filter_congr fun other member => ?_
      simp [others other member]

/-! ### The operations of both kinds of queue -/

namespace QueueBackend

/-- All rows, oldest first. -/
def contents : QueueBackend → List StoredRow
  | .memory queue => queue.rows.map QueueRow.asStored
  | .table queue => queue.rows.map TableRow.asStored

/-- The number that was used last. -/
def lastId : QueueBackend → RowId
  | .memory queue => queue.lastId
  | .table queue => queue.lastId

/-- What a row holds for a payload. -/
def held : QueueBackend → Payload → RowContent
  | .memory _ => .payload
  | .table _ => fun payload => .text payload.text

/-- One queue is another with other rows. -/
structure HasRows (before : QueueBackend) (rows : List StoredRow) (after : QueueBackend) :
    Prop where
  contents : after.contents = rows
  lastId : after.lastId = before.lastId
  held : after.held = before.held

theorem contents_ids (backend : QueueBackend) :
    backend.contents.map StoredRow.id = backend.ids := by
  cases backend with
  | memory queue => rw [contents, List.map_map]; rfl
  | table queue => rw [contents, List.map_map]; rfl

theorem numbered (backend : QueueBackend) :
    Numbered (backend.contents.map StoredRow.id) backend.lastId := by
  rw [contents_ids]
  cases backend with
  | memory queue => exact queue.numbered
  | table queue => exact queue.numbered

theorem hasRows_self (backend : QueueBackend) : backend.HasRows backend.contents backend :=
  ⟨rfl, rfl, rfl⟩

theorem HasRows.trans
    {first second third : QueueBackend}
    {rows others : List StoredRow}
    (left : first.HasRows rows second)
    (right : second.HasRows others third) :
    first.HasRows others third :=
  ⟨right.contents, right.lastId.trans left.lastId, right.held.trans left.held⟩

end QueueBackend

/-- A set of the named rows tells them from the others. -/
private theorem named_filter {ρ : Type} (id : ρ → RowId) (ids : List RowId) (rows : List ρ) :
    (rows.filter fun row => !(Std.HashSet.ofList ids).contains (id row)) =
      rows.filter fun row => id row ∉ ids := by
  refine List.filter_congr fun row _ => ?_
  simp

namespace MemoryQueue

theorem remove_rows (queue : MemoryQueue) (ids : List RowId) :
    (queue.remove ids).2.rows = queue.rows.filter fun row => row.id ∉ ids := by
  rw [remove, rows_keeping, Array.toList_filter, named_filter]
  rfl

theorem evict_rows (queue : MemoryQueue) (eviction : Eviction) (now : Int) :
    (queue.evict eviction now).2.rows =
      eviction.latest (queue.rows.filter fun row => eviction.keepsAge now row.insertedAt) := by
  rw [evict, rows_keeping, toList_keepLatest, Array.toList_filter]
  rfl

theorem emittable_eq (queue : MemoryQueue) (limit : Nat) :
    queue.emittable limit = (queue.rows.take limit).map QueueRow.event := by
  simp [emittable, rows, List.extract_eq_take_drop]

end MemoryQueue

/-- Rows that keep their order are told from the others by their numbers. -/
private theorem filter_ids_of_sublist
    {rows kept : List TableRow}
    (sub : kept.Sublist rows)
    (nodup : (rows.map TableRow.id).Nodup) :
    (rows.filter fun row => row.id ∈ kept.map TableRow.id) = kept := by
  induction sub with
  | slnil => rfl
  | @cons kept rest row sub inductionHypothesis =>
      obtain ⟨fresh, restNodup⟩ := List.nodup_cons.mp nodup
      have absent : row.id ∉ kept.map TableRow.id := fun member =>
        fresh ((sub.map TableRow.id).subset member)
      rw [List.filter_cons_of_neg (by simpa using absent), inductionHypothesis restNodup]
  | @cons_cons kept rest row sub inductionHypothesis =>
      obtain ⟨fresh, restNodup⟩ := List.nodup_cons.mp nodup
      rw [List.filter_cons_of_pos (by simp)]
      congr 1
      refine (List.filter_congr fun other member => ?_).trans (inductionHypothesis restNodup)
      have differs : other.id ≠ row.id := fun same =>
        fresh (same ▸ List.mem_map_of_mem member)
      simp [differs]

theorem ok_of_map
    {ε α β : Type}
    {change : α → β}
    {result : Except ε α}
    {answer : β}
    (succeeds : result.map change = .ok answer) :
    ∃ before, result = .ok before ∧ change before = answer := by
  cases result with
  | error cause => cases succeeds
  | ok before => exact ⟨before, rfl, Except.ok.inj succeeds⟩

/-- Without limits no row is evicted. -/
theorem Eviction.latest_of_isUnbounded
    {ρ : Type}
    {eviction : Eviction}
    (unbounded : eviction.isUnbounded = true)
    (now : Int)
    (instant : ρ → Int)
    (rows : List ρ) :
    eviction.latest (rows.filter fun row => eviction.keepsAge now (instant row)) = rows := by
  obtain ⟨_ | _, _ | _⟩ := eviction <;> simp [isUnbounded] at unbounded
  exact List.filter_eq_self.mpr (by simp [keepsAge])

namespace TableQueue

theorem toList_keepLatest
    (eviction : Eviction)
    (stored : Array TableRow)
    (nodup : (stored.toList.map TableRow.id).Nodup) :
    (keepLatest eviction stored).toList = eviction.latest stored.toList := by
  obtain ⟨maxRows, maxAge⟩ := eviction
  cases maxRows with
  | none => rfl
  | some most =>
      have isLatest : latestIds stored most =
          ((stored.toList.drop (stored.toList.length - most)).map TableRow.id).reverse := by
        rw [latestIds, List.take_reverse, List.map_reverse]
      simp only [keepLatest, Eviction.latest, Array.toList_filter, isLatest]
      refine Eq.trans ?_ (filter_ids_of_sublist (List.drop_sublist _ _) nodup)
      refine List.filter_congr fun row _ => ?_
      simp

theorem insertText_ok
    {queue after : TableQueue}
    {text : String}
    {instant : Int}
    {id : RowId}
    (inserted : queue.insertText text instant = .ok (id, after)) :
    id = queue.lastId + 1 ∧ after.lastId = id ∧ after.rows = queue.rows ++ [⟨id, text, instant⟩] := by
  obtain ⟨stored, lastId, numbered⟩ := queue
  cases stored with
  | none => cases inserted
  | some stored =>
      simp only [insertText, Except.ok.injEq, Prod.mk.injEq] at inserted
      obtain ⟨rfl, rfl⟩ := inserted
      exact ⟨rfl, rfl, Array.toList_push⟩

theorem delete_ok
    {queue after : TableQueue}
    {ids : List RowId}
    {removed : Nat}
    (deleted : queue.delete ids = .ok (removed, after)) :
    after.lastId = queue.lastId ∧ after.rows = queue.rows.filter fun row => row.id ∉ ids := by
  unfold delete at deleted
  split at deleted
  · cases deleted
  · next stored present =>
    split at deleted
    · cases deleted
    · simp only [Except.ok.injEq, Prod.mk.injEq] at deleted
      obtain ⟨_, rfl⟩ := deleted
      refine ⟨rfl, ?_⟩
      rw [rows_keeping, Array.toList_filter, named_filter, rows_of_stored present]

theorem remove_ok
    {queue after : TableQueue}
    {ids : List RowId}
    {removed : Nat}
    (answered : queue.remove ids = .ok (removed, after)) :
    after.lastId = queue.lastId ∧ after.rows = queue.rows.filter fun row => row.id ∉ ids := by
  unfold remove at answered
  split at answered
  · next none =>
    simp only [Except.ok.injEq, Prod.mk.injEq] at answered
    obtain ⟨_, rfl⟩ := answered
    rw [List.isEmpty_iff.mp none, List.filter_eq_self.mpr (by simp)]
    exact ⟨rfl, rfl⟩
  · exact delete_ok answered

theorem evict_ok
    {queue after : TableQueue}
    {eviction : Eviction}
    {now : Int}
    {removed : Nat}
    (evicted : queue.evict eviction now = .ok (removed, after)) :
    after.lastId = queue.lastId ∧
      after.rows =
        eviction.latest (queue.rows.filter fun row => eviction.keepsAge now row.insertedAt) := by
  unfold evict at evicted
  split at evicted
  · next unbounded =>
    simp only [Except.ok.injEq, Prod.mk.injEq] at evicted
    obtain ⟨_, rfl⟩ := evicted
    rw [Eviction.latest_of_isUnbounded unbounded]
    exact ⟨rfl, rfl⟩
  · split at evicted
    · cases evicted
    · next stored present =>
      simp only [Except.ok.injEq, Prod.mk.injEq] at evicted
      obtain ⟨_, rfl⟩ := evicted
      have nodup : (stored.toList.map TableRow.id).Nodup := by
        simpa [present] using queue.numbered.nodup
      have youngNodup : ((stored.filter fun row =>
          eviction.keepsAge now row.insertedAt).toList.map TableRow.id).Nodup := by
        rw [Array.toList_filter]
        exact nodup.sublist (List.filter_sublist.map _)
      refine ⟨rfl, ?_⟩
      rw [rows_keeping, toList_keepLatest _ _ youngNodup, Array.toList_filter,
        rows_of_stored present]

theorem emittable_ok
    {queue after : TableQueue}
    {limit : Nat}
    {page : List QueuedEvent}
    (read : queue.emittable limit = .ok (page, after)) :
    page = (queue.rows.filterMap TableRow.event?).take limit ∧
      after.lastId = queue.lastId ∧
      after.rows = queue.rows.filter fun row => row.id ∉ unreadableIds limit queue.rows := by
  unfold emittable at read
  split at read
  · cases read
  · next stored present =>
    simp only [readPages_events, readPages_unreadable, ← rows_of_stored present] at read
    split at read
    · next noneUnreadable =>
      simp only [Except.ok.injEq, Prod.mk.injEq] at read
      obtain ⟨rfl, rfl⟩ := read
      rw [List.isEmpty_iff.mp noneUnreadable]
      exact ⟨rfl, rfl, (List.filter_eq_self.mpr (by simp)).symm⟩
    · obtain ⟨⟨count, kept⟩, deleted, same⟩ := ok_of_map read
      obtain ⟨rfl, rfl⟩ := Prod.mk.inj same
      exact ⟨rfl, delete_ok deleted⟩

end TableQueue

/-- The rows that limits keep: those that are young enough, and of these the last. -/
def Eviction.kept (eviction : Eviction) (now : Int) (rows : List StoredRow) : List StoredRow :=
  eviction.latest (rows.filter fun row => eviction.keepsAge now row.insertedAt)

theorem Eviction.kept_sublist (eviction : Eviction) (now : Int) (rows : List StoredRow) :
    (eviction.kept now rows).Sublist rows :=
  (eviction.latest_sublist _).trans List.filter_sublist

theorem Eviction.kept_of_isUnbounded
    {eviction : Eviction}
    (unbounded : eviction.isUnbounded = true)
    (now : Int)
    (rows : List StoredRow) :
    eviction.kept now rows = rows :=
  latest_of_isUnbounded unbounded now StoredRow.insertedAt rows

namespace QueueBackend

theorem insert_ok
    {backend after : QueueBackend}
    {payload : Payload}
    {instant : Int}
    {id : RowId}
    (inserted : backend.insert payload instant = .ok (id, after)) :
    id = backend.lastId + 1 ∧ after.lastId = id ∧ after.held = backend.held ∧
      after.contents = backend.contents ++ [⟨id, backend.held payload, instant⟩] := by
  cases backend with
  | memory queue =>
      simp only [insert, MemoryQueue.insert, Except.ok.injEq, Prod.mk.injEq] at inserted
      obtain ⟨rfl, rfl⟩ := inserted
      refine ⟨rfl, rfl, rfl, ?_⟩
      simp [contents, MemoryQueue.rows, QueueRow.asStored, held]
  | table queue =>
      obtain ⟨⟨newId, newQueue⟩, answered, same⟩ := ok_of_map inserted
      obtain ⟨rfl, rfl⟩ := Prod.mk.inj same
      obtain ⟨next, last, rows⟩ := TableQueue.insertText_ok answered
      refine ⟨next, last, rfl, ?_⟩
      simp [contents, rows, TableRow.asStored, held]

theorem emittable_ok
    {backend after : QueueBackend}
    {limit : Nat}
    {page : List QueuedEvent}
    (read : backend.emittable limit = .ok (page, after)) :
    page = firstEvents limit backend.contents ∧
      backend.HasRows (afterReading limit backend.contents) after := by
  cases backend with
  | memory queue =>
      simp only [emittable, Except.ok.injEq, Prod.mk.injEq] at read
      obtain ⟨rfl, rfl⟩ := read
      have readable : ∀ row ∈ (memory queue).contents, row.event?.isSome := by
        intro row member
        obtain ⟨source, _, rfl⟩ := List.mem_map.mp member
        rfl
      rw [afterReading_of_readable _ _ readable, MemoryQueue.emittable_eq, List.map_take]
      refine ⟨?_, hasRows_self _⟩
      rw [firstEvents, contents, List.filterMap_map, ← List.filterMap_eq_map]
      rfl
  | table queue =>
      obtain ⟨⟨newPage, newQueue⟩, answered, same⟩ := ok_of_map read
      obtain ⟨rfl, rfl⟩ := Prod.mk.inj same
      obtain ⟨isPage, last, rows⟩ := TableQueue.emittable_ok answered
      refine ⟨?_, ?_, last, rfl⟩
      · rw [isPage, firstEvents, contents, List.filterMap_map]
        rfl
      · rw [contents, contents, rows]
        exact (afterReading_asStored limit queue.rows queue.numbered.nodup).symm

theorem remove_ok
    {backend after : QueueBackend}
    {ids : List RowId}
    {removed : Nat}
    (answered : backend.remove ids = .ok (removed, after)) :
    backend.HasRows (backend.contents.filter fun row => row.id ∉ ids) after := by
  cases backend with
  | memory queue =>
      simp only [remove, Except.ok.injEq, Prod.mk.injEq] at answered
      obtain ⟨_, rfl⟩ := answered
      refine ⟨?_, rfl, rfl⟩
      rw [contents, contents, MemoryQueue.remove_rows, List.filter_map]
      rfl
  | table queue =>
      obtain ⟨answer, removes, same⟩ := ok_of_map answered
      obtain ⟨_, rfl⟩ := Prod.mk.inj same
      obtain ⟨last, rows⟩ := TableQueue.remove_ok removes
      refine ⟨?_, last, rfl⟩
      rw [contents, contents, rows, List.filter_map]
      rfl

theorem removeAll_ok
    {backend after : QueueBackend}
    {removed : Nat}
    (answered : backend.removeAll = .ok (removed, after)) :
    backend.HasRows [] after := by
  cases backend with
  | memory queue =>
      simp only [removeAll, Except.ok.injEq, Prod.mk.injEq] at answered
      obtain ⟨_, rfl⟩ := answered
      exact ⟨rfl, rfl, rfl⟩
  | table queue =>
      obtain ⟨answer, removes, same⟩ := ok_of_map answered
      obtain ⟨_, rfl⟩ := Prod.mk.inj same
      unfold TableQueue.removeAll at removes
      split at removes
      · cases removes
      · rw [← Except.ok.inj removes]
        exact ⟨rfl, rfl, rfl⟩

theorem evict_ok
    {backend after : QueueBackend}
    {eviction : Eviction}
    {now : Int}
    {removed : Nat}
    (evicted : backend.evict eviction now = .ok (removed, after)) :
    backend.HasRows (eviction.kept now backend.contents) after := by
  cases backend with
  | memory queue =>
      simp only [evict, Except.ok.injEq, Prod.mk.injEq] at evicted
      obtain ⟨_, rfl⟩ := evicted
      refine ⟨?_, rfl, rfl⟩
      rw [Eviction.kept, contents, contents, MemoryQueue.evict_rows, List.filter_map,
        Eviction.latest_map]
      rfl
  | table queue =>
      obtain ⟨answer, evicts, same⟩ := ok_of_map evicted
      obtain ⟨_, rfl⟩ := Prod.mk.inj same
      obtain ⟨last, rows⟩ := TableQueue.evict_ok evicts
      refine ⟨?_, last, rfl⟩
      rw [Eviction.kept, contents, contents, rows, List.filter_map, Eviction.latest_map]
      rfl

end QueueBackend

end Telemetry

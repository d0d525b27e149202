import Telemetry.Proofs.Delivery.Accounting
import Telemetry.Proofs.Delivery.Clearing
import Telemetry.Proofs.Queue.Paging

/-!
Contract: how many rows the statements of a cycle name, and what becomes of a cycle that names
too many.

Owns:
- the rows that reading and settling name, each with one statement;
- when every call of a cycle on a table succeeds: no statement names too many rows;
- what a cycle leaves whose reading or whose removal does.

Does not own: tables that are gone, and outages.
-/

namespace Telemetry

/-! ### Rows that a statement names -/

namespace TableQueue

/-- Reading names the rows that it does not leave. -/
theorem length_unreadableIds_add (want : Nat) (rows : List TableRow) :
    (unreadableIds want rows).length + (afterReading want (rows.map TableRow.asStored)).length =
      rows.length := by
  fun_induction unreadableIds want rows with
  | case1 rows => simp [afterReading]
  | case2 want => rfl
  | case3 want row rest event readable inductionHypothesis =>
      have isSome : row.asStored.event?.isSome := Option.isSome_of_eq_some readable
      rw [List.map_cons, afterReading, if_pos isSome, List.length_cons, List.length_cons,
        ← inductionHypothesis, Nat.add_assoc]
  | case4 want row rest unreadable inductionHypothesis =>
      have isNone : ¬row.asStored.event?.isSome := by
        rw [show row.asStored.event? = none from unreadable]
        exact Bool.false_ne_true
      rw [List.map_cons, afterReading, if_neg isNone, List.length_cons, List.length_cons,
        ← inductionHypothesis, Nat.add_right_comm]

/-- Removal fails if it names more rows than one statement can. -/
theorem remove_of_many {queue : TableQueue} (present : queue.stored.isSome) {ids : List RowId}
    (many : statementLimit < ids.length) : queue.remove ids = .error .tooManyRows := by
  have some : ids.isEmpty = false :=
    List.isEmpty_eq_false_iff.mpr
      (List.ne_nil_of_length_pos (Nat.lt_of_le_of_lt (Nat.zero_le _) many))
  unfold remove delete
  simp only [some, Bool.false_eq_true, if_false]
  split
  · next absent =>
    rw [absent] at present
    cases present
  · rw [if_pos many]

end TableQueue

/-- The rows that reading takes off. -/
def takenByReading (want : Nat) (rows : List StoredRow) : List StoredRow :=
  rows.filter fun row => row ∉ afterReading want rows

theorem length_takenByReading (queue : TableQueue) (want : Nat) :
    (takenByReading want (QueueBackend.table queue).contents).length =
      (unreadableIds want queue.rows).length := by
  have nodup : (QueueBackend.table queue).contents.Nodup :=
    List.Nodup.of_map _ (QueueBackend.table queue).numbered.nodup
  have parts := (filter_not_mem_append_perm (afterReading_sublist want _) nodup).length_eq
  have named := TableQueue.length_unreadableIds_add want queue.rows
  rw [List.length_append, QueueBackend.contents, List.length_map] at parts
  rw [takenByReading, QueueBackend.contents]
  omega

/-! ### Calls on a table -/

/-- The queue is a table that is there, and it refuses no call. -/
structure EventQueue.OnTable (queue : EventQueue) : Prop where
  answers : ∀ call count, queue.refuses call count = false
  table : ∃ table : TableQueue, queue.backend = .table table ∧ table.stored.isSome

namespace EventQueue.OnTable

variable {queue : EventQueue} (onTable : queue.OnTable)

include onTable

theorem insert (payload : Payload) (instant : Int) :
    (∃ id, (queue.insert payload instant).1 = .ok id) ∧
      (queue.insert payload instant).2.OnTable := by
  obtain ⟨table, isTable, present⟩ := onTable.table
  obtain ⟨id, after, inserted, stays⟩ := TableQueue.insert_total present payload instant
  have acted : queue.backend.insert payload instant = .ok (id, .table after) := by
    rw [isTable, QueueBackend.insert, inserted]
    rfl
  rw [EventQueue.insert, guarded_of_ok (onTable.answers _ _) _ acted]
  exact ⟨⟨id, rfl⟩, onTable.answers, after, rfl, stays⟩

theorem takesAll (arrived : List (Payload × Int)) :
    queue.TakesAll arrived ∧ (queue.insertAll arrived).OnTable := by
  induction arrived generalizing queue with
  | nil => exact ⟨trivial, onTable⟩
  | cons row rest inductionHypothesis =>
      obtain ⟨inserts, next⟩ := onTable.insert row.1 row.2
      obtain ⟨takes, last⟩ := inductionHypothesis next
      exact ⟨⟨inserts, takes⟩, last⟩

theorem contents_insertAll (arrived : List (Payload × Int)) :
    (queue.insertAll arrived).backend.contents =
      queue.backend.contents ++ insertedRows queue.backend.held queue.backend.lastId arrived :=
  (queue.insertAll_of_takesAll arrived (onTable.takesAll arrived).1).1

/-- Eviction names no rows, so it succeeds. -/
theorem evict (eviction : Eviction) (now : Int) :
    ∃ removed backend, queue.evict eviction now = (.ok removed, { queue.called with backend }) ∧
      queue.backend.HasRows (eviction.kept now queue.backend.contents) backend ∧
      { queue.called with backend }.OnTable := by
  obtain ⟨table, isTable, present⟩ := onTable.table
  obtain ⟨after, evicted, stays⟩ := TableQueue.evict_total present eviction now
  have acted : queue.backend.evict eviction now =
      .ok (table.rows.length - after.rows.length, .table after) := by
    rw [isTable, QueueBackend.evict, evicted]
    rfl
  refine ⟨_, _, guarded_of_ok (onTable.answers _ _) _ acted, QueueBackend.evict_ok acted, ?_⟩
  exact ⟨onTable.answers, after, rfl, stays⟩

theorem emittable_of_few {limit : Nat}
    (few : (takenByReading limit queue.backend.contents).length ≤ TableQueue.statementLimit) :
    ∃ page, (queue.emittable limit).1 = .ok page ∧ (queue.emittable limit).2.OnTable := by
  obtain ⟨table, isTable, present⟩ := onTable.table
  rw [isTable, length_takenByReading] at few
  obtain ⟨page, after, read, stays⟩ := TableQueue.emittable_of_few present few
  have acted : queue.backend.emittable limit = .ok (page, .table after) := by
    rw [isTable, QueueBackend.emittable, read]
    rfl
  rw [EventQueue.emittable, guarded_of_ok (onTable.answers _ _) _ acted]
  exact ⟨page, rfl, onTable.answers, after, rfl, stays⟩

theorem emittable_of_many {limit : Nat}
    (many : TableQueue.statementLimit < (takenByReading limit queue.backend.contents).length) :
    queue.emittable limit = (.error .tooManyRows, queue.called) := by
  obtain ⟨table, isTable, present⟩ := onTable.table
  rw [isTable, length_takenByReading] at many
  have fails := TableQueue.emittable_of_many present many
  rw [EventQueue.emittable, guarded, if_neg (by simp [onTable.answers]), isTable,
    QueueBackend.emittable, fails]
  rfl

theorem remove_iff (ids : List RowId) :
    (∃ removed, (queue.remove ids).1 = .ok removed) ↔ ids.length ≤ TableQueue.statementLimit := by
  obtain ⟨table, isTable, present⟩ := onTable.table
  constructor
  · rintro ⟨removed, answered⟩
    by_contra many
    have fails := TableQueue.remove_of_many present (Nat.not_le.mp many)
    rw [EventQueue.remove, guarded, if_neg (by simp [onTable.answers]), isTable,
      QueueBackend.remove, fails] at answered
    cases answered
  · intro few
    obtain ⟨after, removed, _⟩ := TableQueue.remove_total present few
    have acted : queue.backend.remove ids =
        .ok (table.rows.length - after.rows.length, .table after) := by
      rw [isTable, QueueBackend.remove, removed]
      rfl
    rw [EventQueue.remove, guarded_of_ok (onTable.answers _ _) _ acted]
    exact ⟨_, rfl⟩

end EventQueue.OnTable

namespace Emitter

variable {emitter : Emitter} (onTable : emitter.queue.OnTable) (now : Int)

include onTable

/-- Eviction comes first, and reading sees the rows that it leaves. -/
theorem readPage_of_onTable :
    ∃ evicted : EventQueue, evicted.OnTable ∧
      emitter.queue.backend.HasRows
        (emitter.config.eviction.kept now emitter.queue.backend.contents) evicted.backend ∧
      emitter.readPage now = { emitter with queue := evicted }.readRows := by
  unfold readPage
  split
  · next unbounded =>
    refine ⟨emitter.queue, onTable, ?_, rfl⟩
    rw [Eviction.kept_of_isUnbounded unbounded]
    exact QueueBackend.hasRows_self _
  · obtain ⟨removed, backend, evicts, rows, evicted⟩ :=
      onTable.evict emitter.config.eviction now
    rw [evicts]
    exact ⟨_, evicted, rows, rfl⟩

theorem readPage_of_few
    (few : (emitter.unreadableAt now).length ≤ TableQueue.statementLimit) :
    ∃ page reading, emitter.readPage now = (some page, reading) ∧ reading.queue.OnTable := by
  obtain ⟨evicted, evictedOnTable, rows, reads⟩ := readPage_of_onTable onTable now
  have taken : takenByReading emitter.config.emitRange evicted.backend.contents =
      emitter.unreadableAt now := by
    rw [rows.contents]
    rfl
  rw [← taken] at few
  obtain ⟨page, read, left⟩ := evictedOnTable.emittable_of_few few
  refine ⟨page, { emitter with queue := (evicted.emittable emitter.config.emitRange).2 }, ?_, left⟩
  rw [reads, readRows]
  simp only [read]
  rfl

theorem readPage_of_many
    (many : TableQueue.statementLimit < (emitter.unreadableAt now).length) :
    ∃ queue : EventQueue, queue.OnTable ∧
      emitter.queue.backend.HasRows
        (emitter.config.eviction.kept now emitter.queue.backend.contents) queue.backend ∧
      emitter.readPage now = (none, { emitter with queue }) := by
  obtain ⟨evicted, evictedOnTable, rows, reads⟩ := readPage_of_onTable onTable now
  have taken : takenByReading emitter.config.emitRange evicted.backend.contents =
      emitter.unreadableAt now := by
    rw [rows.contents]
    rfl
  rw [← taken] at many
  refine ⟨evicted.called, ⟨evictedOnTable.answers, evictedOnTable.table⟩, rows, ?_⟩
  rw [reads, readRows]
  simp only [evictedOnTable.emittable_of_many many]
  rfl

omit now in
theorem removeRows_iff (ids : List RowId) :
    (emitter.removeRows ids).1 = .ok () ↔ ids.length ≤ TableQueue.statementLimit := by
  unfold removeRows
  split
  · next none =>
    rw [List.isEmpty_iff.mp none]
    exact iff_of_true rfl (Nat.zero_le _)
  · rw [← onTable.remove_iff ids]
    rcases emitter.queue.remove_cases ids with ⟨cause, failed⟩ | ⟨removed, _, _, answered⟩
    · simp [failed, Except.map]
    · simp [answered, Except.map]

end Emitter

/-! ### A cycle on a table -/

namespace Emitter

/-- Rows that are delivered or given up are rows of the page. -/
theorem settled_le_emitRange (emitter : Emitter) (transport : Transport) (now : Int) :
    (emitter.reportAt transport now).sent + (emitter.reportAt transport now).dropped ≤
      emitter.config.emitRange := by
  have parts := carriedRows_partition emitter.config.retry (emitter.answersAt transport now)
  have carried := emitter.carriedRows_answersAt transport now
  have pulled : (emitter.pageAt now).length ≤ emitter.config.emitRange :=
    List.length_take_le _ _
  simp only [reportAt, CycleReport.counting, Nat.zero_add]
  omega

section Cycle

variable {emitter : Emitter} {transport : Transport} {now : Int} {arrivals : Arrivals}

theorem length_settledIds_of_pageSent {reading sending : Emitter} {sent : SentPage}
    (pageSent : emitter.PageSent transport now arrivals reading sent sending) :
    (settledIds sending.config.retry sent.results).length =
      (emitter.reportAt transport now).sent + (emitter.reportAt transport now).dropped := by
  rw [pageSent.results, pageSent.config, length_settledIds, carriedRows_final]
  simp only [reportAt, CycleReport.counting, Nat.zero_add]

/-- Inserts and the sending do not take a table away. -/
theorem PageSent.onTable {reading sending : Emitter} {sent : SentPage}
    (pageSent : emitter.PageSent transport now arrivals reading sent sending)
    (readOnTable : reading.queue.OnTable) : sending.queue.OnTable := by
  rw [pageSent.queue]
  exact (readOnTable.takesAll arrivals.afterReading).2

variable (onTable : emitter.queue.OnTable)

include onTable

/-- After a page was read, only the removal can fail. -/
theorem callsSucceed_iff_of_few
    (few : (emitter.unreadableAt now).length ≤ TableQueue.statementLimit) :
    emitter.CallsSucceed transport now arrivals ↔
      (emitter.reportAt transport now).sent + (emitter.reportAt transport now).dropped ≤
        TableQueue.statementLimit := by
  obtain ⟨page, reading, read, readOnTable⟩ := readPage_of_few onTable now few
  obtain ⟨sent, sending, pageSent, sends, _, _⟩ := cycle_eq_settle transport arrivals read
  have sentOnTable := pageSent.onTable readOnTable
  obtain ⟨takesSecond, arrivedOnTable⟩ := sentOnTable.takesAll arrivals.afterSending
  have removes : ((sending.accept arrivals.afterSending).removeRows
      (settledIds sending.config.retry sent.results)).1 = .ok () ↔ _ :=
    removeRows_iff arrivedOnTable (settledIds sending.config.retry sent.results)
  rw [← length_settledIds_of_pageSent pageSent, ← removes]
  constructor
  · rintro ⟨otherPage, otherReading, otherRead, _, otherSent, otherSending, otherSends, _, removed⟩
    obtain ⟨samePage, rfl⟩ := Prod.mk.inj (otherRead.symm.trans read)
    obtain rfl := Option.some.inj samePage
    obtain ⟨rfl, rfl⟩ := Prod.mk.inj (otherSends.symm.trans sends)
    exact removed
  · intro removed
    exact ⟨page, reading, read, (readOnTable.takesAll arrivals.afterReading).1, sent, sending,
      sends, takesSecond, removed⟩

theorem cycle_of_manySettled
    (few : (emitter.unreadableAt now).length ≤ TableQueue.statementLimit)
    (many : TableQueue.statementLimit <
      (emitter.reportAt transport now).sent + (emitter.reportAt transport now).dropped) :
    (emitter.cycle transport now arrivals).1 = some (emitter.reportAt transport now) ∧
      (emitter.cycle transport now arrivals).2.paused = true ∧
      (emitter.cycle transport now arrivals).2.queue.backend.contents =
        emitter.rowsAt now ++
          insertedRows emitter.queue.backend.held emitter.queue.backend.lastId
            (arrivals.afterReading ++ arrivals.afterSending) := by
  obtain ⟨page, reading, read, readOnTable⟩ := readPage_of_few onTable now few
  obtain ⟨sent, sending, pageSent, sends, reported, settled⟩ :=
    cycle_eq_settle transport arrivals read
  have sentOnTable := pageSent.onTable readOnTable
  obtain ⟨takesSecond, arrivedOnTable⟩ := sentOnTable.takesAll arrivals.afterSending
  have takesFirst := (readOnTable.takesAll arrivals.afterReading).1
  rw [settle_report pageSent] at reported
  rw [← length_settledIds_of_pageSent pageSent] at many
  refine ⟨reported, ?_⟩
  rcases settle_cases (sending.accept arrivals.afterSending) sent with
    ⟨_, paused, left⟩ | ⟨removed, _, _⟩
  · rw [settled]
    exact ⟨paused, left.contents.trans (contents_of_takesAll pageSent takesFirst takesSecond)⟩
  · exact absurd ((removeRows_iff arrivedOnTable _).mp removed) (Nat.not_le.mpr many)

theorem cycle_of_manyUnreadable
    (many : TableQueue.statementLimit < (emitter.unreadableAt now).length) :
    ¬emitter.CallsSucceed transport now arrivals ∧
      (emitter.cycle transport now arrivals).1 = none ∧
      (emitter.cycle transport now arrivals).2.handed = emitter.handed ∧
      (emitter.cycle transport now arrivals).2.queue.backend.contents =
        emitter.config.eviction.kept now emitter.queue.backend.contents ++
          insertedRows emitter.queue.backend.held emitter.queue.backend.lastId
            (arrivals.afterReading ++ arrivals.afterSending) := by
  obtain ⟨queue, leftOnTable, rows, read⟩ := readPage_of_many onTable now many
  constructor
  · rintro ⟨page, reading, isRead, _⟩
    rw [read] at isRead
    cases isRead
  · have inserted := leftOnTable.contents_insertAll (arrivals.afterReading ++ arrivals.afterSending)
    rw [rows.contents, rows.held, rows.lastId, EventQueue.insertAll, List.foldl_append] at inserted
    simp only [cycle, read]
    exact ⟨trivial, rfl, inserted⟩

end Cycle

/-- A cycle names the unreadable rows that reading meets with one statement, and with another
the rows that are delivered or given up. Its calls succeed exactly if neither names too many,
and the second never does if a page has no more rows than a statement can name. A reading that
names too many answers nothing and leaves the rows. A removal that does leaves all rows of the
page though they are reported as delivered or given up, and the emitter pauses. -/
theorem cycle_fits_statements_iff {emitter : Emitter} (onTable : emitter.queue.OnTable)
    (transport : Transport) (now : Int) (arrivals : Arrivals) :
    let report := emitter.reportAt transport now
    let cycled := emitter.cycle transport now arrivals
    let inserted := insertedRows emitter.queue.backend.held emitter.queue.backend.lastId
      (arrivals.afterReading ++ arrivals.afterSending)
    (emitter.CallsSucceed transport now arrivals ↔
        (emitter.unreadableAt now).length ≤ TableQueue.statementLimit ∧
          report.sent + report.dropped ≤ TableQueue.statementLimit) ∧
      report.sent + report.dropped ≤ emitter.config.emitRange ∧
      (TableQueue.statementLimit < (emitter.unreadableAt now).length →
        cycled.1 = none ∧ cycled.2.handed = emitter.handed ∧
          cycled.2.queue.backend.contents =
            emitter.config.eviction.kept now emitter.queue.backend.contents ++ inserted) ∧
      ((emitter.unreadableAt now).length ≤ TableQueue.statementLimit →
        TableQueue.statementLimit < report.sent + report.dropped →
        cycled.1 = some report ∧ cycled.2.paused = true ∧
          cycled.2.queue.backend.contents = emitter.rowsAt now ++ inserted) := by
  intro report cycled inserted
  refine ⟨?_, emitter.settled_le_emitRange transport now,
    fun many => (cycle_of_manyUnreadable onTable many).2, cycle_of_manySettled onTable⟩
  by_cases few : (emitter.unreadableAt now).length ≤ TableQueue.statementLimit
  · rw [callsSucceed_iff_of_few onTable few, and_iff_right few]
  · have many := Nat.not_le.mp few
    exact iff_of_false (cycle_of_manyUnreadable onTable many).1 fun fits => few fits.1

/-- Reading passes over two unreadable rows. Of the two others one is given up. -/
theorem mixed_rows_fit_statements :
    let emitter : Emitter :=
      ⟨.ofQueue ⟨.table .mixed, fun _ _ => false, 0⟩ { emitRange := 2 }, .standard⟩
    let transport := Transport.answeringStatuses [some 200, some 410]
    emitter.queue.OnTable ∧ (emitter.unreadableAt 0).map StoredRow.id = [1, 4] ∧
      emitter.CallsSucceed transport 0 {} := by
  intro emitter transport
  have onTable : emitter.queue.OnTable := ⟨fun _ _ => rfl, .mixed, rfl, rfl⟩
  refine ⟨onTable, by decide, (cycle_fits_statements_iff onTable transport 0 {}).1.mpr ?_⟩
  decide

end Emitter

/-! ### A page that is too large -/

theorem length_insertedRows (held : Payload → RowContent) (last : RowId)
    (arrived : List (Payload × Int)) :
    (insertedRows held last arrived).length = arrived.length := by
  induction arrived generalizing last with
  | nil => rfl
  | cons row rest inductionHypothesis =>
      rw [insertedRows, List.length_cons, List.length_cons, inductionHypothesis]

/-- Rows of payloads can be read. -/
theorem readable_of_mem_insertedRows (backend : QueueBackend) {last : RowId}
    {arrived : List (Payload × Int)} {row : StoredRow}
    (member : row ∈ insertedRows backend.held last arrived) : row.event?.isSome := by
  induction arrived generalizing last with
  | nil => cases member
  | cons first rest inductionHypothesis =>
      rcases List.mem_cons.mp member with rfl | inRest
      · exact Option.isSome_of_eq_some (backend.event?_keptAs ⟨last + 1, first.1, first.2⟩)
      · exact inductionHypothesis inRest

namespace Emitter

/-- A cycle delivers every row of a queue, and removes none. -/
structure KeepsDelivered (emitter : Emitter) (transport : Transport) (now : Int) : Prop where
  delivers : ∀ answered ∈ emitter.answersAt transport now, answered.2.Delivers
  sent : (emitter.reportAt transport now).sent = emitter.queue.backend.contents.length
  fails : ¬emitter.CallsSucceed transport now {}
  reported : (emitter.cycle transport now {}).1 = some (emitter.reportAt transport now)
  paused : (emitter.cycle transport now {}).2.paused = true
  left : (emitter.cycle transport now {}).2.queue.backend.contents =
    emitter.queue.backend.contents

section Readable

variable {emitter : Emitter} {transport : Transport} {now : Int}
  (unbounded : emitter.config.eviction.isUnbounded = true)
  (readable : ∀ row ∈ emitter.queue.backend.contents, row.event?.isSome)

include unbounded readable

/-- If every row can be read, reading leaves the rows as they are. -/
theorem rowsAt_of_readable : emitter.rowsAt now = emitter.queue.backend.contents := by
  rw [rowsAt, Eviction.kept_of_isUnbounded unbounded, afterReading_of_readable _ _ readable]

theorem unreadableAt_of_readable : emitter.unreadableAt now = [] := by
  rw [unreadableAt, rowsAt_of_readable unbounded readable, Eviction.kept_of_isUnbounded unbounded]
  exact List.filter_eq_nil_iff.mpr fun row member => by simpa using member

variable (whole : emitter.queue.backend.contents.length ≤ emitter.config.emitRange)

include whole

/-- A page that is large enough takes every row. -/
theorem carriedRows_of_whole :
    carriedRows (emitter.answersAt transport now) = emitter.queue.backend.contents.length := by
  have events : (emitter.queue.backend.contents.filterMap StoredRow.event?).length =
      emitter.queue.backend.contents.length :=
    List.filterMap_length_eq_length.mpr readable
  rw [carriedRows_answersAt, pageAt, Eviction.kept_of_isUnbounded unbounded, firstEvents,
    List.take_of_length_le (by rw [events]; exact whole), events]

/-- More rows than a statement can name stay when a page has them all. -/
theorem keepsDelivered_of_many (onTable : emitter.queue.OnTable)
    (many : TableQueue.statementLimit < emitter.queue.backend.contents.length)
    (delivers : ∀ answered ∈ emitter.answersAt transport now, answered.2.Delivers) :
    emitter.KeepsDelivered transport now := by
  have sent : (emitter.reportAt transport now).sent = emitter.queue.backend.contents.length := by
    simp only [reportAt, CycleReport.counting, Nat.zero_add]
    rw [List.filter_eq_self.mpr fun answered member => decide_eq_true (delivers answered member),
      carriedRows_of_whole unbounded readable whole]
  have few : (emitter.unreadableAt now).length ≤ TableQueue.statementLimit := by
    rw [unreadableAt_of_readable unbounded readable]
    exact Nat.zero_le _
  have named : TableQueue.statementLimit <
      (emitter.reportAt transport now).sent + (emitter.reportAt transport now).dropped := by
    rw [sent]
    exact Nat.lt_of_lt_of_le many (Nat.le_add_right _ _)
  obtain ⟨reported, paused, left⟩ := cycle_of_manySettled onTable few named
  constructor
  case delivers => exact delivers
  case sent => exact sent
  case fails =>
    rw [callsSucceed_iff_of_few onTable few]
    exact Nat.not_le.mpr named
  case reported => exact reported
  case paused => exact paused
  case left =>
    rw [left, rowsAt_of_readable unbounded readable]
    exact List.append_nil _

end Readable

/-- An emitter whose queue in a table holds some empty payloads, which one page has room for. -/
def ofTableRows (count : Nat) : Emitter where
  toOutbox := .ofQueue
    (EventQueue.insertAll ⟨.table .empty, fun _ _ => false, 0⟩ (List.replicate count (.empty, 0)))
    { emitRange := count }
  bus := .standard

/-- Single requests that are all delivered. -/
def delivering : Transport := ⟨.get, fun _ request => .returned (request.result (some 200))⟩

theorem contents_ofTableRows (count : Nat) :
    (ofTableRows count).queue.backend.contents =
      insertedRows (QueueBackend.table .empty).held 0 (List.replicate count (.empty, 0)) :=
  EventQueue.OnTable.contents_insertAll ⟨fun _ _ => rfl, .empty, rfl, rfl⟩ _

theorem length_ofTableRows (count : Nat) :
    (ofTableRows count).queue.backend.contents.length = count := by
  rw [contents_ofTableRows, length_insertedRows, List.length_replicate]

theorem ofTableRows_keepsDelivered {count : Nat} (many : TableQueue.statementLimit < count) :
    (ofTableRows count).KeepsDelivered delivering 0 := by
  have onTable : (ofTableRows count).queue.OnTable :=
    (EventQueue.OnTable.takesAll ⟨fun _ _ => rfl, .empty, rfl, rfl⟩ _).2
  have readable : ∀ row ∈ (ofTableRows count).queue.backend.contents, row.event?.isSome := by
    rw [contents_ofTableRows]
    exact fun row member => readable_of_mem_insertedRows _ member
  have whole : (ofTableRows count).queue.backend.contents.length ≤
      (ofTableRows count).config.emitRange := by
    rw [length_ofTableRows]
    exact Nat.le_max_left count 1
  refine keepsDelivered_of_many rfl readable whole onTable ?_ ?_
  · rw [length_ofTableRows]
    exact many
  · intro answered member
    obtain ⟨place, isAnswer⟩ := Transport.answer_of_mem member
    rw [isAnswer]
    exact ⟨200, rfl, by decide, by decide⟩

/-- One row more than a statement can name. -/
theorem full_page_keepsDelivered :
    (ofTableRows 32767).queue.backend.contents.length = 32767 ∧
      (ofTableRows 32767).KeepsDelivered delivering 0 :=
  ⟨length_ofTableRows 32767, ofTableRows_keepsDelivered (by decide)⟩

end Emitter

end Telemetry

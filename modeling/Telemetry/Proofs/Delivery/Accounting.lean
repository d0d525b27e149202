import Mathlib.Data.List.Flatten
import Mathlib.Data.List.Nodup
import Telemetry.Proofs.Delivery.Drain
import Telemetry.Proofs.Queue.RoundTrip

/-!
Contract: every row that a queue has before a cycle is accounted for after it.

Owns:
- the rows that eviction and reading take, and that reading takes only unreadable ones;
- what a cycle leaves whose calls on the queue succeed;
- the balance of one cycle, and when it makes the rows fewer;
- queues of which no call fails.

Does not own: cycles one after another.
-/

namespace Telemetry

/-! ### Rows that are taken off -/

/-- The rows of a list without duplicates are those of a part and the others. -/
theorem filter_not_mem_append_perm {ρ : Type} [DecidableEq ρ] {kept rows : List ρ}
    (sub : kept.Sublist rows) (nodup : rows.Nodup) :
    ((rows.filter fun row => row ∉ kept) ++ kept).Perm rows := by
  have apart : ((rows.filter fun row => row ∉ kept) ++ kept).Nodup := by
    refine List.nodup_append.mpr ⟨nodup.filter _, nodup.sublist sub, ?_⟩
    rintro row outside other inside rfl
    exact of_decide_eq_true (List.mem_filter.mp outside).2 inside
  refine (List.perm_ext_iff_of_nodup apart nodup).mpr fun row => ?_
  rw [List.mem_append, List.mem_filter, decide_eq_true_eq]
  constructor
  · rintro (⟨member, _⟩ | inside)
    · exact member
    · exact sub.subset inside
  · intro member
    by_cases inside : row ∈ kept
    · exact .inr inside
    · exact .inl ⟨member, inside⟩

theorem unreadable_of_not_mem_afterReading {want : Nat} {rows : List StoredRow} {row : StoredRow}
    (member : row ∈ rows) (taken : row ∉ afterReading want rows) : row.event? = none := by
  fun_induction afterReading want rows with
  | case1 rows => exact absurd member taken
  | case2 want => cases member
  | case3 want first rest readable inductionHypothesis =>
      obtain ⟨notFirst, notLater⟩ := not_or.mp (mt List.mem_cons.mpr taken)
      rcases List.mem_cons.mp member with same | inRest
      · exact absurd same notFirst
      · exact inductionHypothesis inRest notLater
  | case4 want first rest unreadable inductionHypothesis =>
      rcases List.mem_cons.mp member with rfl | inRest
      · simpa using unreadable
      · exact inductionHypothesis inRest taken

/-- Reading that finds nothing leaves nothing. -/
theorem afterReading_of_no_events {want : Nat} (positive : 0 < want) {rows : List StoredRow}
    (noEvents : firstEvents want rows = []) : afterReading want rows = [] := by
  fun_induction afterReading want rows with
  | case1 rows => cases positive
  | case2 want => rfl
  | case3 want row rest readable inductionHypothesis =>
      obtain ⟨event, isEvent⟩ := Option.isSome_iff_exists.mp readable
      rw [firstEvents, List.filterMap_cons_some isEvent, List.take_succ_cons] at noEvents
      cases noEvents
  | case4 want row rest unreadable inductionHypothesis =>
      have isNone : row.event? = none := by simpa using unreadable
      rw [firstEvents, List.filterMap_cons_none isNone] at noEvents
      exact inductionHypothesis positive noEvents

/-! ### Counts of final answers -/

/-- The rows of final answers were delivered or given up. -/
theorem carriedRows_final (rules : RetryRules) (answers : List (Request × Answer)) :
    carriedRows (answers.filter fun answered => rules.Final answered.1 answered.2) =
      carriedRows (answers.filter fun answered => answered.2.Delivers) +
        carriedRows (answers.filter fun answered => rules.GivesUp answered.1 answered.2) := by
  induction answers with
  | nil => rfl
  | cons answered rest inductionHypothesis =>
      obtain ⟨request, answer⟩ := answered
      simp only [List.filter_cons]
      by_cases broken : answer = .panicked
      · subst broken
        simp [inductionHypothesis]
      · rcases RetryRules.answer_cases rules request broken with
          ⟨delivers, final, gives, _⟩ | ⟨delivers, final, gives, _⟩ | ⟨delivers, final, gives, _⟩ <;>
          simp [delivers, final, gives, inductionHypothesis] <;> omega

theorem carriedRows_filter_le (counts : Request × Answer → Bool)
    (answers : List (Request × Answer)) :
    carriedRows (answers.filter counts) ≤ carriedRows answers :=
  (List.filter_sublist.flatMap _).length_le

/-- The rows that settling names are those of final answers. -/
theorem Emitter.length_settledIds (rules : RetryRules) (answers : List (Request × Answer)) :
    (settledIds rules (answers.filterMap fun answered => answered.2.result? answered.1)).length =
      carriedRows (answers.filter fun answered => rules.Final answered.1 answered.2) := by
  induction answers with
  | nil => rfl
  | cons answered rest inductionHypothesis =>
      cases isResult : answered.2.result? answered.1 with
      | none =>
          have notFinal : ¬rules.Final answered.1 answered.2 := by
            cases broken : answered.2 with
            | panicked => exact rules.not_final_panicked answered.1
            | returned result =>
                rw [broken] at isResult
                cases isResult
          rw [List.filterMap_cons, isResult, List.filter_cons_of_neg (by simpa using notFinal)]
          exact inductionHypothesis
      | some result =>
          rw [List.filterMap_cons, isResult, settledIds, List.flatMap_cons,
            List.length_append, ← settledIds, inductionHypothesis, ids_of_result? isResult]
          by_cases final : rules.Final answered.1 answered.2
          · rw [if_pos ((removesRows_of_result? isResult).mpr final),
              List.filter_cons_of_pos (by simpa using final), carriedRows_cons]
          · rw [if_neg (mt (removesRows_of_result? isResult).mp final),
              List.filter_cons_of_neg (by simpa using final), List.length_nil, Nat.zero_add]

/-! ### Queues after calls -/

namespace EventQueue

/-- One queue is what calls leave of another: its outages are the same, and its table does not
go away. -/
structure Later (before after : EventQueue) : Prop where
  refuses : after.refuses = before.refuses
  follows : before.backend.Follows after.backend

theorem later_self (queue : EventQueue) : queue.Later queue :=
  ⟨rfl, QueueBackend.follows_self _⟩

theorem Later.trans {first second third : EventQueue} (left : first.Later second)
    (right : second.Later third) : first.Later third :=
  ⟨right.refuses.trans left.refuses, left.follows.trans right.follows⟩

theorem guarded_later {α : Type} (queue : EventQueue) (call : QueueCall)
    (act : QueueBackend → Except QueueError (α × QueueBackend))
    (follows : ∀ answer after, act queue.backend = .ok (answer, after) →
      queue.backend.Follows after) :
    queue.Later (queue.guarded call act).2 := by
  rcases queue.guarded_cases call act with ⟨_, failed⟩ | ⟨answer, after, acted, answered⟩
  · rw [failed]
    exact ⟨rfl, QueueBackend.follows_self _⟩
  · rw [answered]
    exact ⟨rfl, follows answer after acted⟩

end EventQueue

namespace Emitter

theorem readPage_later (emitter : Emitter) (now : Int) :
    emitter.queue.Later (emitter.readPage now).2.queue := by
  have reads : ∀ other : Emitter, other.queue.Later other.readRows.2.queue := fun other =>
    other.queue.guarded_later .read (fun backend => backend.emittable _) fun _ _ =>
      QueueBackend.follows_of_emittable
  have evicts : emitter.queue.Later (emitter.queue.evict emitter.config.eviction now).2 :=
    emitter.queue.guarded_later .evict _ fun _ _ => QueueBackend.follows_of_evict
  unfold readPage
  split
  · exact reads emitter
  · split
    · next cause queue failed =>
      rw [failed] at evicts
      exact evicts
    · next removed queue evicted =>
      rw [evicted] at evicts
      exact evicts.trans (reads { emitter with queue := queue })

theorem removeRows_later (emitter : Emitter) (ids : List RowId) :
    emitter.queue.Later (emitter.removeRows ids).2.queue := by
  unfold removeRows
  split
  · exact EventQueue.later_self _
  · exact emitter.queue.guarded_later .remove _ fun _ _ => QueueBackend.follows_of_remove

theorem settle_later (emitter : Emitter) (sent : SentPage) :
    emitter.queue.Later (emitter.settle sent).2.queue := by
  have removes := emitter.removeRows_later (settledIds emitter.config.retry sent.results)
  unfold settle removeSettled
  split
  · next removed =>
    rw [removed] at removes
    exact removes
  · next cause left failed =>
    rw [failed] at removes
    rw [(pause_frame _ _).1]
    exact removes

/-! ### One cycle -/

/-- The rows that eviction takes at an instant. -/
def evictedAt (emitter : Emitter) (now : Int) : List StoredRow :=
  emitter.queue.backend.contents.filter fun row =>
    row ∉ emitter.config.eviction.kept now emitter.queue.backend.contents

/-- The rows that reading takes at an instant, of those that eviction leaves. -/
def unreadableAt (emitter : Emitter) (now : Int) : List StoredRow :=
  (emitter.config.eviction.kept now emitter.queue.backend.contents).filter fun row =>
    row ∉ emitter.rowsAt now

/-- The counts of a page by what its requests are answered. -/
def reportAt (emitter : Emitter) (transport : Transport) (now : Int) : CycleReport :=
  CycleReport.counting emitter.config.retry { attempted := (emitter.pageAt now).length }
    (emitter.answersAt transport now)

/-- What a cycle comes to whose calls on the queue succeed, while nothing is inserted. -/
structure Settles (transport : Transport) (now : Int) (emitter next : Emitter) : Prop where
  cycled : emitter.cycle transport now {} = (some (emitter.reportAt transport now), next)
  config : next.config = emitter.config
  paused : next.paused = emitter.paused
  later : emitter.queue.Later next.queue
  rows : next.queue.backend.contents = (emitter.rowsAt now).filter fun row =>
    ¬emitter.config.retry.Removes (emitter.answersAt transport now) row.id

section Cycles

variable {emitter next : Emitter} {transport : Transport} {now : Int}

theorem settles_of_callsSucceed (succeed : emitter.CallsSucceed transport now {}) :
    ∃ next, emitter.Settles transport now next := by
  obtain ⟨contents, _, _⟩ := emitter.cycle_removes_final_rows transport now {} succeed
  obtain ⟨page, reading, read, _, sent, sending, sends, _, removes⟩ := succeed
  obtain ⟨sent', sending', pageSent, sends', reported, settled⟩ :=
    cycle_eq_settle transport {} read
  obtain ⟨rfl, rfl⟩ := Prod.mk.inj (sends.symm.trans sends')
  rw [settle_report pageSent] at reported
  refine ⟨(emitter.cycle transport now {}).2, Prod.ext reported rfl, ?_, ?_, ?_, ?_⟩
  · rw [settled, (settle_frame _ _).1]
    exact pageSent.config
  · rcases settle_cases (sending.accept []) sent with ⟨⟨cause, failed⟩, _⟩ | ⟨_, samePaused, _⟩
    · exact absurd (failed.symm.trans removes) nofun
    · rw [settled]
      exact samePaused.trans pageSent.paused
  · have reads := emitter.readPage_later now
    have settles := settle_later (sending.accept []) sent
    have sameQueue : (sending.accept []).queue = reading.queue := pageSent.queue
    rw [read] at reads
    rw [sameQueue] at settles
    rw [settled]
    exact reads.trans settles
  · exact contents.trans (List.append_nil _)

theorem carriedRows_answersAt (emitter : Emitter) (transport : Transport) (now : Int) :
    carriedRows (emitter.answersAt transport now) = (emitter.pageAt now).length := by
  rw [← List.length_map (f := QueuedEvent.id)]
  exact (emitter.answersAt_ids_perm transport now).length_eq

theorem contents_nodup (emitter : Emitter) : emitter.queue.backend.contents.Nodup :=
  List.Nodup.of_map _ emitter.queue.backend.numbered.nodup

theorem event?_of_mem_unreadableAt {row : StoredRow} (taken : row ∈ emitter.unreadableAt now) :
    row.event? = none := by
  obtain ⟨member, notLeft⟩ := List.mem_filter.mp taken
  exact unreadable_of_not_mem_afterReading member (of_decide_eq_true notLeft)

/-- The rows that settling removes are those of the final answers. -/
theorem removed_length (emitter : Emitter) (transport : Transport) (now : Int) :
    ((emitter.rowsAt now).filter fun row =>
        emitter.config.retry.Removes (emitter.answersAt transport now) row.id).length =
      carriedRows ((emitter.answersAt transport now).filter fun answered =>
        emitter.config.retry.Final answered.1 answered.2) := by
  have rowsNodup : (((emitter.rowsAt now).filter fun row =>
      emitter.config.retry.Removes (emitter.answersAt transport now) row.id).map
        StoredRow.id).Nodup :=
    emitter.queue.backend.numbered.nodup.sublist
      ((List.filter_sublist.trans (emitter.rowsAt_sublist now)).map _)
  have answersNodup : (((emitter.answersAt transport now).filter fun answered =>
      emitter.config.retry.Final answered.1 answered.2).flatMap fun answered =>
        answered.1.ids).Nodup := by
    have allNodup := (emitter.pageAt_ids_numbered now).nodup
    rw [← (emitter.answersAt_ids_perm transport now).nodup_iff] at allNodup
    exact allNodup.sublist (List.filter_sublist.flatMap _)
  have sameIds := (List.perm_ext_iff_of_nodup rowsNodup answersNodup).mpr fun id => by
    simp only [List.mem_map, List.mem_flatMap, List.mem_filter, decide_eq_true_eq]
    constructor
    · rintro ⟨row, ⟨_, answered, member, inRequest, final⟩, rfl⟩
      exact ⟨answered, ⟨member, final⟩, inRequest⟩
    · rintro ⟨answered, ⟨member, final⟩, inRequest⟩
      obtain ⟨_, row, left, rfl⟩ := row_of_answered member inRequest
      exact ⟨row, ⟨left, answered, member, inRequest, final⟩, rfl⟩
  rw [carriedRows, ← sameIds.length_eq, List.length_map]

namespace Settles

variable (settles : emitter.Settles transport now next)

include settles

/-- Every row is evicted, unreadable, delivered, given up, or still there. -/
theorem balance :
    emitter.queue.backend.contents.length =
      (emitter.reportAt transport now).sent + (emitter.reportAt transport now).dropped +
        (emitter.evictedAt now).length + (emitter.unreadableAt now).length +
        next.queue.backend.contents.length := by
  have keptSublist := emitter.config.eviction.kept_sublist now emitter.queue.backend.contents
  have evicted : (emitter.evictedAt now).length +
      (emitter.config.eviction.kept now emitter.queue.backend.contents).length =
        emitter.queue.backend.contents.length := by
    rw [← List.length_append]
    exact (filter_not_mem_append_perm keptSublist emitter.contents_nodup).length_eq
  have read : (emitter.unreadableAt now).length + (emitter.rowsAt now).length =
      (emitter.config.eviction.kept now emitter.queue.backend.contents).length := by
    rw [← List.length_append]
    exact (filter_not_mem_append_perm (afterReading_sublist _ _)
      (emitter.contents_nodup.sublist keptSublist)).length_eq
  have settled := (List.filter_append_perm (fun row : StoredRow =>
    decide (emitter.config.retry.Removes (emitter.answersAt transport now) row.id))
    (emitter.rowsAt now)).length_eq
  simp only [List.length_append, ← decide_not] at settled
  have removed := emitter.removed_length transport now
  rw [carriedRows_final] at removed
  rw [settles.rows]
  simp only [reportAt, CycleReport.counting, Nat.zero_add]
  omega

/-- A row whose answer keeps it is still there. -/
theorem keeps {answered : Request × Answer} (member : answered ∈ emitter.answersAt transport now)
    (kept : emitter.config.retry.Keeps answered.1 answered.2) :
    ∀ id ∈ answered.1.ids, id ∈ next.queue.backend.contents.map StoredRow.id := by
  intro id inRequest
  obtain ⟨_, row, left, rfl⟩ := row_of_answered member inRequest
  refine List.mem_map_of_mem ?_
  rw [settles.rows, List.mem_filter, decide_eq_true_eq]
  refine ⟨left, ?_⟩
  rintro ⟨other, inAnswers, carries, final⟩
  rw [answered_unique inAnswers carries member inRequest] at final
  exact kept.2 final

theorem length_le :
    next.queue.backend.contents.length ≤ emitter.queue.backend.contents.length := by
  have balance := settles.balance
  omega

/-- A page of which no request is kept or breaks off makes the rows fewer. -/
theorem length_lt (returns : ∀ index request, transport.answer index request ≠ .panicked)
    (pulled : 0 < (emitter.reportAt transport now).attempted)
    (keepsNone : (emitter.reportAt transport now).retained = 0) :
    next.queue.backend.contents.length < emitter.queue.backend.contents.length := by
  have unbroken : ((emitter.answersAt transport now).filter fun answered =>
      answered.2 = .panicked) = [] := by
    refine List.filter_eq_nil_iff.mpr fun answered member => ?_
    obtain ⟨place, isAnswer⟩ := Transport.answer_of_mem member
    rw [decide_eq_true_eq, isAnswer]
    exact returns place _
  have parts := carriedRows_partition emitter.config.retry (emitter.answersAt transport now)
  rw [unbroken, carriedRows_nil, carriedRows_answersAt] at parts
  have balance := settles.balance
  simp only [reportAt, CycleReport.counting, Nat.zero_add] at balance pulled keepsNone
  omega

/-- A cycle that pulls nothing leaves nothing. -/
theorem empty_of_no_page (positive : 0 < emitter.config.emitRange)
    (noPage : (emitter.reportAt transport now).attempted = 0) : next.queue.backend.contents = [] := by
  have noRows : emitter.rowsAt now = [] :=
    afterReading_of_no_events positive (List.length_eq_zero_iff.mp noPage)
  rw [settles.rows, noRows]
  rfl

end Settles

end Cycles

end Emitter

/-! ### Queues that never fail -/

theorem unreadableIds_length_le (want : Nat) (rows : List TableRow) :
    (unreadableIds want rows).length ≤ rows.length := by
  fun_induction unreadableIds want rows with
  | case1 rows => exact Nat.zero_le _
  | case2 want => exact Nat.zero_le _
  | case3 want row rest event readable inductionHypothesis =>
      exact Nat.le_succ_of_le inductionHypothesis
  | case4 want row rest unreadable inductionHypothesis =>
      exact Nat.succ_le_succ inductionHypothesis

theorem TableQueue.emittable_of_fits {queue : TableQueue} (present : queue.stored.isSome)
    (fits : queue.rows.length ≤ statementLimit) (limit : Nat) :
    ∃ answer, queue.emittable limit = .ok answer := by
  obtain ⟨page, after, read, _⟩ :=
    emittable_of_few present (Nat.le_trans (unreadableIds_length_le limit queue.rows) fits)
  exact ⟨(page, after), read⟩

theorem QueueBackend.emittable_of_fits {backend : QueueBackend}
    (present : backend.Continues backend)
    (fits : backend.contents.length ≤ TableQueue.statementLimit) (limit : Nat) :
    ∃ page after, backend.emittable limit = .ok (page, after) := by
  cases backend with
  | memory queue => exact ⟨_, _, rfl⟩
  | table queue =>
      rw [length_contents] at fits
      obtain ⟨answer, read⟩ := TableQueue.emittable_of_fits present fits limit
      exact ⟨answer.1, .table answer.2, by rw [emittable, read]; rfl⟩

theorem EventQueue.guarded_of_ok {α : Type} {queue : EventQueue} {call : QueueCall}
    (answering : queue.refuses call queue.calls = false)
    (act : QueueBackend → Except QueueError (α × QueueBackend)) {answer : α}
    {after : QueueBackend} (acted : act queue.backend = .ok (answer, after)) :
    queue.guarded call act = (.ok answer, { queue.called with backend := after }) := by
  rw [guarded, if_neg (by simp [answering]), acted]

/-- The queue refuses no call, and its table is there with no more rows than one statement can
name. -/
structure EventQueue.Answering (queue : EventQueue) : Prop where
  answers : ∀ call count, queue.refuses call count = false
  present : queue.backend.Continues queue.backend
  fits : queue.backend.contents.length ≤ TableQueue.statementLimit

theorem EventQueue.Answering.later {queue after : EventQueue} (answering : queue.Answering)
    (later : queue.Later after)
    (fewer : after.backend.contents.length ≤ queue.backend.contents.length) :
    after.Answering where
  answers := by
    rw [later.refuses]
    exact answering.answers
  present := later.follows.present answering.present
  fits := Nat.le_trans fewer answering.fits

namespace Emitter

variable {emitter : Emitter} {transport : Transport} {now : Int}

theorem readRows_of_answering (answering : emitter.queue.Answering) :
    ∃ page, emitter.readRows.1 = some page := by
  obtain ⟨page, after, read⟩ := QueueBackend.emittable_of_fits answering.present answering.fits
    emitter.config.emitRange
  refine ⟨page, ?_⟩
  rw [readRows, EventQueue.emittable, EventQueue.guarded_of_ok (answering.answers _ _) _ read]
  rfl

theorem readPage_of_answering (answering : emitter.queue.Answering) (now : Int) :
    ∃ page, (emitter.readPage now).1 = some page := by
  unfold readPage
  split
  · exact readRows_of_answering answering
  · obtain ⟨after, evicted, continues⟩ :=
      QueueBackend.evict_total answering.present emitter.config.eviction now
    have evicts := EventQueue.guarded_of_ok (answering.answers .evict emitter.queue.calls)
      (fun backend => backend.evict emitter.config.eviction now) evicted
    rw [EventQueue.evict, evicts]
    refine readRows_of_answering (answering.later ⟨rfl, ?_⟩ ?_)
    · exact QueueBackend.follows_of_evict evicted
    · rw [(QueueBackend.evict_ok evicted).contents]
      exact (Eviction.kept_sublist _ _ _).length_le

theorem removeRows_of_answering (answering : emitter.queue.Answering) {ids : List RowId}
    (few : ids.length ≤ TableQueue.statementLimit) : (emitter.removeRows ids).1 = .ok () := by
  have allowed : emitter.queue.backend.Allows (.remove ids) := by
    cases emitter.queue.backend with
    | memory queue => trivial
    | table queue => exact few
  obtain ⟨after, removed, _⟩ := QueueBackend.remove_total answering.present allowed
  have removes := EventQueue.guarded_of_ok (answering.answers .remove emitter.queue.calls)
    (fun backend => backend.remove ids) removed
  unfold removeRows
  split
  · rfl
  · rw [EventQueue.remove, removes]
    rfl

/-- No call of a cycle fails on such a queue. -/
theorem callsSucceed_of_answering (answering : emitter.queue.Answering) :
    emitter.CallsSucceed transport now {} := by
  obtain ⟨page, isPage⟩ := readPage_of_answering answering now
  have read : emitter.readPage now = (some page, (emitter.readPage now).2) := Prod.ext isPage rfl
  obtain ⟨sent, sending, pageSent, sends, _, _⟩ := cycle_eq_settle transport {} read
  refine ⟨page, _, read, trivial, sent, sending, sends, trivial, ?_⟩
  have sameQueue : sending.queue = (emitter.readPage now).2.queue := pageSent.queue
  have stored := (emitter.rowsAt_sublist now).length_le
  have sendingAnswers : sending.queue.Answering := by
    rw [sameQueue]
    refine answering.later (emitter.readPage_later now) ?_
    rw [pageSent.rows.contents]
    exact stored
  have settled := carriedRows_filter_le (fun answered =>
    sending.config.retry.Final answered.1 answered.2) (emitter.answersAt transport now)
  have pulled := (emitter.pageAt_ids_sublist now).length_le
  have fits := answering.fits
  rw [← length_settledIds, ← pageSent.results, carriedRows_answersAt] at settled
  simp only [List.length_map] at pulled
  exact removeRows_of_answering sendingAnswers (by omega)

end Emitter

end Telemetry

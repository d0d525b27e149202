import Telemetry.Proofs.Delivery.Drain

/-!
Contract: a drain whose answers are all final empties the queue.

Owns:
- the rows past a page, by recursion over the rows;
- the cycles of a drain as they start, each at its own instant, and the answers to all its
  requests;
- what a cycle leaves if its calls succeed and its answers are final: the rows past its page;
- the drain: it ends, the queue is empty, every row went out once and in order of the pages,
  and the report counts the rows by what was answered.

Does not own: drains in which rows are kept, calls fail or sendings break off.
-/

namespace Telemetry

/-! ### The rows past a page -/

/-- The rows that follow the first `want` readable ones. If there are fewer, no row does. -/
def rowsPast : (want : Nat) → List StoredRow → List StoredRow
  | 0, rows => rows
  | _ + 1, [] => []
  | want + 1, row :: rest =>
    if row.event?.isSome then
      rowsPast want rest
    else
      rowsPast (want + 1) rest

theorem rowsPast_events (want : Nat) (rows : List StoredRow) :
    (rowsPast want rows).filterMap StoredRow.event? =
      (rows.filterMap StoredRow.event?).drop want := by
  fun_induction rowsPast want rows with
  | case1 rows => rfl
  | case2 want => rfl
  | case3 want row rest readable inductionHypothesis =>
      obtain ⟨event, isEvent⟩ := Option.isSome_iff_exists.mp readable
      rw [inductionHypothesis, List.filterMap_cons_some isEvent, List.drop_succ_cons]
  | case4 want row rest unreadable inductionHypothesis =>
      have isNone : row.event? = none := by simpa using unreadable
      rw [inductionHypothesis, List.filterMap_cons_none isNone]

/-- A page that is not full is the last one, and unreadable rows behind it are gone as well. -/
theorem rowsPast_eq_nil {want : Nat} {rows : List StoredRow}
    (few : (rows.filterMap StoredRow.event?).length < want) : rowsPast want rows = [] := by
  fun_induction rowsPast want rows with
  | case1 rows => exact absurd few (Nat.not_lt_zero _)
  | case2 want => rfl
  | case3 want row rest readable inductionHypothesis =>
      obtain ⟨event, isEvent⟩ := Option.isSome_iff_exists.mp readable
      rw [List.filterMap_cons_some isEvent, List.length_cons] at few
      exact inductionHypothesis (Nat.lt_of_succ_lt_succ few)
  | case4 want row rest unreadable inductionHypothesis =>
      have isNone : row.event? = none := by simpa using unreadable
      rw [List.filterMap_cons_none isNone] at few
      exact inductionHypothesis few

/-- Without the rows of its page, a queue that was read has the rows past the page. -/
theorem afterReading_without_page {want : Nat} {rows : List StoredRow}
    (nodup : (rows.map StoredRow.id).Nodup) :
    ((afterReading want rows).filter fun row =>
        row.id ∉ (firstEvents want rows).map QueuedEvent.id) =
      rowsPast want rows := by
  fun_induction afterReading want rows with
  | case1 rows =>
      rw [rowsPast]
      exact List.filter_eq_self.mpr (by simp [firstEvents])
  | case2 want => rfl
  | case3 want row rest readable inductionHypothesis =>
      obtain ⟨fresh, restNodup⟩ := List.nodup_cons.mp nodup
      obtain ⟨event, isEvent⟩ := Option.isSome_iff_exists.mp readable
      have sameId := StoredRow.id_of_event? isEvent
      have page : (firstEvents (want + 1) (row :: rest)).map QueuedEvent.id =
          row.id :: (firstEvents want rest).map QueuedEvent.id := by
        rw [firstEvents, List.filterMap_cons_some isEvent, List.take_succ_cons, List.map_cons,
          sameId]
        rfl
      have others : ∀ other ∈ afterReading want rest, other.id ≠ row.id := by
        intro other member same
        have inRest := (afterReading_sublist want rest).subset member
        exact fresh (same ▸ List.mem_map_of_mem inRest)
      rw [rowsPast, if_pos readable, ← inductionHypothesis restNodup, page,
        List.filter_cons_of_neg (by simp)]
      refine List.filter_congr fun other member => ?_
      simp [others other member]
  | case4 want row rest unreadable inductionHypothesis =>
      obtain ⟨_, restNodup⟩ := List.nodup_cons.mp nodup
      have isNone : row.event? = none := by simpa using unreadable
      have page : firstEvents (want + 1) (row :: rest) = firstEvents (want + 1) rest := by
        rw [firstEvents, List.filterMap_cons_none isNone]
        rfl
      rw [rowsPast, if_neg unreadable, page]
      exact inductionHypothesis restNodup

namespace QueueBackend

/-- The events of the rows that can be read, oldest first. -/
def readable (backend : QueueBackend) : List QueuedEvent :=
  backend.contents.filterMap StoredRow.event?

theorem readable_ascending (backend : QueueBackend) :
    (backend.readable.map QueuedEvent.id).Pairwise (· < ·) := by
  have kept : (backend.readable.map QueuedEvent.id).Sublist
      (backend.contents.map StoredRow.id) := by
    rw [readable]
    induction backend.contents with
    | nil => exact List.Sublist.refl _
    | cons row rest inductionHypothesis =>
        cases isEvent : row.event? with
        | none =>
            rw [List.filterMap_cons_none isEvent]
            exact inductionHypothesis.cons row.id
        | some event =>
            rw [List.filterMap_cons_some isEvent, List.map_cons, List.map_cons,
              StoredRow.id_of_event? isEvent]
            exact inductionHypothesis.cons_cons row.id
  exact backend.numbered.ascending.sublist kept

end QueueBackend

/-! ### Counts of final answers -/

/-- The counts of two reports add up. -/
theorem CycleReport.add_counting (rules : RetryRules) (first second : Nat)
    (answers others : List (Request × Answer)) :
    (counting rules { attempted := first } answers).add
        (counting rules { attempted := second } others) =
      counting rules { attempted := first + second } (answers ++ others) := by
  simp [counting, add, carriedRows, List.filter_append]

section Final

variable {rules : RetryRules} {answers : List (Request × Answer)}
  (final : ∀ answered ∈ answers, rules.Final answered.1 answered.2)

include final

/-- A final answer keeps no row. -/
theorem keptRows_of_final :
    carriedRows (answers.filter fun answered => rules.Keeps answered.1 answered.2) = 0 := by
  have none : (answers.filter fun answered => rules.Keeps answered.1 answered.2) = [] := by
    refine List.filter_eq_nil_iff.mpr fun answered member => ?_
    rw [decide_eq_true_iff]
    exact fun keeps => keeps.2 (final answered member)
  rw [none, carriedRows_nil]

/-- Every row of final answers was delivered or given up. -/
theorem deliveredRows_add_givenUpRows :
    carriedRows (answers.filter fun answered => answered.2.Delivers) +
        carriedRows (answers.filter fun answered => rules.GivesUp answered.1 answered.2) =
      carriedRows answers := by
  have noneBroken : (answers.filter fun answered => answered.2 = .panicked) = [] := by
    refine List.filter_eq_nil_iff.mpr fun answered member => ?_
    rw [decide_eq_true_iff]
    intro broken
    have isFinal := final answered member
    rw [broken] at isFinal
    exact rules.not_final_panicked _ isFinal
  have parts := carriedRows_partition rules answers
  rw [keptRows_of_final final, noneBroken, carriedRows_nil, Nat.add_zero] at parts
  exact parts

end Final

/-! ### The cycles of a drain -/

/-- A cycle of a drain as it starts: what the clock shows, and the emitter. -/
structure CycleStart where
  now : Int
  emitter : Emitter

namespace CycleStart

/-- The requests of the cycle with their answers, oldest first. -/
def answers (start : CycleStart) (transport : Transport) : List (Request × Answer) :=
  start.emitter.answersAt transport start.now

/-- The requests of the cycle as they are handed over, oldest first. -/
def stamped (start : CycleStart) (transport : Transport) : List Request :=
  (start.answers transport).map fun answered => answered.1.stamped start.now

/-- Every row of one cycle has a smaller number than every row of another. -/
def RowsPrecede (transport : Transport) (earlier later : CycleStart) : Prop :=
  ∀ first ∈ earlier.answers transport, ∀ id ∈ first.1.ids,
    ∀ second ∈ later.answers transport, ∀ other ∈ second.1.ids, id < other

end CycleStart

namespace Emitter

/-- The cycles of a drain as they start, oldest first; of at most so many cycles. -/
def startsWithin (transport : Transport) :
    (clock : Time.Clock) → (cycles : Nat) → Emitter → List CycleStart
  | _, 0, _ => []
  | clock, cycles + 1, emitter =>
    if emitter.paused then
      []
    else
      match emitter.cycle transport clock.now {} with
      | (none, _) => [⟨clock.now, emitter⟩]
      | (some report, next) =>
        if goesOn next.config report then
          ⟨clock.now, emitter⟩ :: startsWithin transport clock.later cycles next
        else
          [⟨clock.now, emitter⟩]

/-- A drain starts a cycle, and goes on from what the cycle leaves or ends with it. -/
theorem startsWithin_of_cycle {transport : Transport} {clock : Time.Clock}
    {emitter next : Emitter} {report : CycleReport} (running : emitter.paused = false)
    (cycled : emitter.cycle transport clock.now {} = (some report, next)) (cycles : Nat) :
    startsWithin transport clock (cycles + 1) emitter =
      ⟨clock.now, emitter⟩ ::
        if goesOn next.config report then startsWithin transport clock.later cycles next
        else [] := by
  rw [startsWithin, if_neg (by simp [running]), cycled]
  simp only
  split <;> rfl

/-- The requests of a drain with their answers, oldest first. -/
def answersWithin (transport : Transport) (clock : Time.Clock) (cycles : Nat)
    (emitter : Emitter) : List (Request × Answer) :=
  (startsWithin transport clock cycles emitter).flatMap fun start => start.answers transport

/-- The requests of a drain as they are handed over, oldest first. -/
def stampedWithin (transport : Transport) (clock : Time.Clock) (cycles : Nat)
    (emitter : Emitter) : List Request :=
  (startsWithin transport clock cycles emitter).flatMap fun start => start.stamped transport

/-- Every call of a cycle on the queue succeeds, and every answer to its requests is final. -/
structure Clears (transport : Transport) (now : Int) (emitter : Emitter) : Prop where
  succeed : emitter.CallsSucceed transport now {}
  final : ∀ answered ∈ emitter.answersAt transport now,
    emitter.config.retry.Final answered.1 answered.2

section Cycles

variable {emitter next : Emitter} {transport : Transport} {now : Int}

theorem handedAt_eq (emitter : Emitter) (transport : Transport) (now : Int) :
    emitter.handedAt transport now =
      ((emitter.answersAt transport now).map fun answered => answered.1.stamped now).reverse := by
  rw [handedAt, answersAt, ← Transport.answers_requests transport now emitter.handed.length
    (emitter.requestsOf transport.method (emitter.pageAt now)), List.map_map,
    Transport.answers_requests]
  rfl

theorem answersAt_events_perm (emitter : Emitter) (transport : Transport) (now : Int) :
    ((emitter.answersAt transport now).flatMap fun answered => answered.1.events).Perm
      (emitter.pageAt now) := by
  rw [answersAt, ← List.flatMap_map, Transport.answers_requests]
  exact Request.ofEvents_perm _ _ _ _

/-- The requests of a cycle carry a row exactly if the page does. -/
theorem carried_iff (emitter : Emitter) (transport : Transport) (now : Int) (id : RowId) :
    (∃ answered ∈ emitter.answersAt transport now, id ∈ answered.1.ids) ↔
      id ∈ (emitter.pageAt now).map QueuedEvent.id := by
  rw [← (emitter.answersAt_ids_perm transport now).mem_iff, List.mem_flatMap]

/-- What a cycle leaves whose answers are all final: the rows past its page. -/
structure TakesPage (transport : Transport) (now : Int) (emitter next : Emitter) : Prop where
  cycled : emitter.cycle transport now {} =
    (some (CycleReport.counting emitter.config.retry
      { attempted := (emitter.pageAt now).length } (emitter.answersAt transport now)), next)
  config : next.config = emitter.config
  paused : next.paused = emitter.paused
  handed : next.handed = emitter.handedAt transport now ++ emitter.handed
  rows : next.queue.backend.contents =
    rowsPast emitter.config.emitRange emitter.queue.backend.contents

theorem pageAt_of_isUnbounded (unbounded : emitter.config.eviction.isUnbounded = true)
    (now : Int) :
    emitter.pageAt now = emitter.queue.backend.readable.take emitter.config.emitRange := by
  rw [pageAt, Eviction.kept_of_isUnbounded unbounded]
  rfl

theorem Clears.takesPage (unbounded : emitter.config.eviction.isUnbounded = true)
    (clears : emitter.Clears transport now) :
    ∃ next, emitter.TakesPage transport now next := by
  obtain ⟨page, reading, read, _, sent, sending, sends, _, removes⟩ := clears.succeed
  obtain ⟨sent', sending', pageSent, sends', reported, settled⟩ :=
    cycle_eq_settle transport {} read
  obtain ⟨rfl, rfl⟩ := Prod.mk.inj (sends.symm.trans sends')
  rw [settle_report pageSent] at reported
  refine ⟨(emitter.cycle transport now {}).2, Prod.ext reported rfl, ?_, ?_, ?_, ?_⟩
  · rw [settled, (settle_frame _ _).1]
    exact pageSent.config
  · rcases settle_cases (sending.accept []) sent with ⟨⟨cause, failed⟩, _⟩ | ⟨_, samePaused, _⟩
    · exact absurd (failed.symm.trans removes) nofun
    · rw [settled]
      exact samePaused.trans pageSent.paused
  · exact handed_of_cycle (Prod.ext reported rfl)
  · rcases settle_cases (sending.accept []) sent with ⟨⟨cause, failed⟩, _⟩ | ⟨_, _, left⟩
    · exact absurd (failed.symm.trans removes) nofun
    have atRest : (sending.accept []).queue.backend.contents = emitter.rowsAt now :=
      (congrArg (fun queue => queue.backend.contents) pageSent.queue).trans pageSent.rows.contents
    -- All answers are final, so the settled rows are the rows of the page.
    have settledRow : ∀ id, id ∈ settledIds (sending.accept []).config.retry sent.results ↔
        id ∈ (emitter.pageAt now).map QueuedEvent.id := by
      intro id
      rw [← emitter.carried_iff transport now, mem_settledIds_of_pageSent pageSent]
      exact ⟨fun ⟨answered, member, inRequest, _⟩ => ⟨answered, member, inRequest⟩,
        fun ⟨answered, member, inRequest⟩ =>
          ⟨answered, member, inRequest, clears.final answered member⟩⟩
    rw [settled, left.contents, atRest]
    simp only [settledRow]
    rw [rowsAt, pageAt, Eviction.kept_of_isUnbounded unbounded]
    exact afterReading_without_page emitter.queue.backend.numbered.nodup

namespace TakesPage

theorem readable (takes : emitter.TakesPage transport now next) :
    next.queue.backend.readable =
      emitter.queue.backend.readable.drop emitter.config.emitRange := by
  rw [QueueBackend.readable, takes.rows, rowsPast_events]
  rfl

/-- A drain goes on exactly after a full page. -/
theorem goesOn_iff (takes : emitter.TakesPage transport now next)
    (unbounded : emitter.config.eviction.isUnbounded = true)
    (positive : 0 < emitter.config.emitRange) (clears : emitter.Clears transport now) :
    goesOn next.config (CycleReport.counting emitter.config.retry
        { attempted := (emitter.pageAt now).length } (emitter.answersAt transport now)) = true ↔
      emitter.config.emitRange ≤ emitter.queue.backend.readable.length := by
  have noneKept := keptRows_of_final clears.final
  have fullPage : emitter.config.emitRange ≤ (emitter.pageAt now).length ↔
      emitter.config.emitRange ≤ emitter.queue.backend.readable.length := by
    rw [pageAt_of_isUnbounded unbounded, List.length_take, Nat.le_min]
    exact and_iff_right (Nat.le_refl _)
  rw [goesOn, takes.config, CycleReport.counting]
  simp only [Bool.and_eq_true, decide_eq_true_eq, noneKept]
  rw [← fullPage]
  exact ⟨fun onward => onward.1.2, fun full => ⟨⟨Nat.lt_of_lt_of_le positive full, full⟩, trivial⟩⟩

end TakesPage

end Cycles

/-! ### The whole drain -/

/-- A drain that takes every row off the queue: what it reports and leaves, and the order in
which it hands the rows over. -/
structure Empties (transport : Transport) (clock : Time.Clock) (cycles : Nat)
    (emitter last : Emitter) : Prop where
  ends : drainWithin transport clock cycles emitter =
    some (CycleReport.counting emitter.config.retry
      { attempted := emitter.queue.backend.readable.length }
      (emitter.answersWithin transport clock cycles), last)
  running : last.paused = false
  empty : last.queue.backend.contents = []
  handed : last.handed =
    (emitter.stampedWithin transport clock cycles).reverse ++ emitter.handed
  carried : ((emitter.answersWithin transport clock cycles).flatMap fun answered =>
    answered.1.events).Perm emitter.queue.backend.readable
  inOrder : (startsWithin transport clock cycles emitter).Pairwise
    (CycleStart.RowsPrecede transport)
  final : ∀ answered ∈ emitter.answersWithin transport clock cycles,
    emitter.config.retry.Final answered.1 answered.2

section Drains

variable {emitter next last : Emitter} {transport : Transport} {clock : Time.Clock} {cycles : Nat}

/-- The rows of a page precede the rows of all cycles that start from the queue without it. -/
theorem TakesPage.precedes (takes : emitter.TakesPage transport clock.now next)
    (unbounded : emitter.config.eviction.isUnbounded = true)
    (empties : next.Empties transport clock.later cycles last) :
    ∀ later ∈ startsWithin transport clock.later cycles next,
      CycleStart.RowsPrecede transport ⟨clock.now, emitter⟩ later := by
  intro later isLater first inFirst id carriesId second inSecond other carriesOther
  have ascending := emitter.queue.backend.readable_ascending
  rw [← List.take_append_drop emitter.config.emitRange emitter.queue.backend.readable,
    List.map_append] at ascending
  have inPage : id ∈ (emitter.queue.backend.readable.take emitter.config.emitRange).map
      QueuedEvent.id := by
    rw [← pageAt_of_isUnbounded unbounded clock.now, ← emitter.carried_iff transport clock.now]
    exact ⟨first, inFirst, carriesId⟩
  obtain ⟨event, isEvent, rfl⟩ := List.mem_map.mp carriesOther
  have inNext : event ∈ next.queue.backend.readable := by
    rw [← empties.carried.mem_iff]
    exact List.mem_flatMap.mpr
      ⟨second, List.mem_flatMap.mpr ⟨later, isLater, inSecond⟩, isEvent⟩
  rw [takes.readable] at inNext
  exact (List.pairwise_append.mp ascending).2.2 id inPage _ (List.mem_map_of_mem inNext)

/-- A full page is taken off, and the drain goes on with the rows past it. -/
theorem TakesPage.empties_of_full (takes : emitter.TakesPage transport clock.now next)
    (clears : emitter.Clears transport clock.now) (running : emitter.paused = false)
    (unbounded : emitter.config.eviction.isUnbounded = true)
    (full : emitter.config.emitRange ≤ emitter.queue.backend.readable.length)
    (onward : goesOn next.config (CycleReport.counting emitter.config.retry
      { attempted := (emitter.pageAt clock.now).length }
      (emitter.answersAt transport clock.now)) = true)
    (empties : next.Empties transport clock.later cycles last) :
    emitter.Empties transport clock (cycles + 1) last := by
  have starts : startsWithin transport clock (cycles + 1) emitter =
      ⟨clock.now, emitter⟩ :: startsWithin transport clock.later cycles next := by
    rw [startsWithin_of_cycle running takes.cycled, if_pos onward]
  have answers : emitter.answersWithin transport clock (cycles + 1) =
      emitter.answersAt transport clock.now ++
        next.answersWithin transport clock.later cycles := by
    rw [answersWithin, starts, List.flatMap_cons]
    rfl
  have page := pageAt_of_isUnbounded unbounded clock.now
  constructor
  case ends =>
    have pulled : (emitter.pageAt clock.now).length + next.queue.backend.readable.length =
        emitter.queue.backend.readable.length := by
      rw [page, takes.readable, List.length_take, List.length_drop]
      omega
    rw [drainWithin_of_cycle running takes.cycled, if_pos onward, empties.ends, Option.map_some,
      takes.config, CycleReport.add_counting, pulled, answers]
  case running => exact empties.running
  case empty => exact empties.empty
  case handed =>
    have stamped : emitter.stampedWithin transport clock (cycles + 1) =
        CycleStart.stamped ⟨clock.now, emitter⟩ transport ++
          next.stampedWithin transport clock.later cycles := by
      rw [stampedWithin, starts, List.flatMap_cons]
      rfl
    rw [empties.handed, takes.handed, handedAt_eq, stamped, List.reverse_append,
      List.append_assoc]
    rfl
  case carried =>
    rw [answers, List.flatMap_append,
      ← List.take_append_drop emitter.config.emitRange emitter.queue.backend.readable,
      ← page, ← takes.readable]
    exact (emitter.answersAt_events_perm transport clock.now).append empties.carried
  case inOrder =>
    rw [starts]
    exact List.pairwise_cons.mpr ⟨takes.precedes unbounded empties, empties.inOrder⟩
  case final =>
    rw [answers]
    refine List.forall_mem_append.mpr ⟨clears.final, ?_⟩
    rw [← takes.config]
    exact empties.final

/-- A page that is not full is the last one. -/
theorem TakesPage.empties_of_short (takes : emitter.TakesPage transport clock.now next)
    (clears : emitter.Clears transport clock.now) (running : emitter.paused = false)
    (unbounded : emitter.config.eviction.isUnbounded = true)
    (short : emitter.queue.backend.readable.length < emitter.config.emitRange)
    (stops : goesOn next.config (CycleReport.counting emitter.config.retry
      { attempted := (emitter.pageAt clock.now).length }
      (emitter.answersAt transport clock.now)) = false) :
    emitter.Empties transport clock (cycles + 1) next := by
  have starts : startsWithin transport clock (cycles + 1) emitter = [⟨clock.now, emitter⟩] := by
    rw [startsWithin_of_cycle running takes.cycled, if_neg (Bool.eq_false_iff.mp stops)]
  have answers : emitter.answersWithin transport clock (cycles + 1) =
      emitter.answersAt transport clock.now := by
    rw [answersWithin, starts, List.flatMap_singleton, CycleStart.answers]
  have page : emitter.pageAt clock.now = emitter.queue.backend.readable := by
    rw [pageAt_of_isUnbounded unbounded clock.now, List.take_of_length_le (Nat.le_of_lt short)]
  constructor
  case ends =>
    rw [drainWithin_of_cycle running takes.cycled, if_neg (Bool.eq_false_iff.mp stops), answers,
      page]
  case running => exact takes.paused.trans running
  case empty =>
    rw [takes.rows]
    exact rowsPast_eq_nil short
  case handed =>
    rw [takes.handed, handedAt_eq, stampedWithin, starts, List.flatMap_singleton]
    rfl
  case carried =>
    rw [answers, ← page]
    exact emitter.answersAt_events_perm transport clock.now
  case inOrder =>
    rw [starts]
    exact List.pairwise_singleton _ _
  case final =>
    rw [answers]
    exact clears.final

/-- By induction on the bound of cycles, which stays above the number of full pages: every cycle
takes a full page off, or it is the last one. -/
theorem empties_of_clears (running : emitter.paused = false)
    (unbounded : emitter.config.eviction.isUnbounded = true)
    (positive : 0 < emitter.config.emitRange)
    (enough : emitter.queue.backend.readable.length / emitter.config.emitRange < cycles)
    (clears : ∀ start ∈ startsWithin transport clock cycles emitter,
      start.emitter.Clears transport start.now) :
    ∃ last, emitter.Empties transport clock cycles last := by
  induction cycles generalizing emitter clock with
  | zero => exact absurd enough (Nat.not_lt_zero _)
  | succ cycles inductionHypothesis =>
      have isStart : ⟨clock.now, emitter⟩ ∈ startsWithin transport clock (cycles + 1) emitter := by
        rw [startsWithin, if_neg (by simp [running])]
        split
        · exact List.mem_singleton.mpr rfl
        · split <;> exact List.mem_cons_self
      have clearsHere : emitter.Clears transport clock.now := clears _ isStart
      obtain ⟨next, takes⟩ := clearsHere.takesPage unbounded
      have onward_iff := takes.goesOn_iff unbounded positive clearsHere
      by_cases full : emitter.config.emitRange ≤ emitter.queue.backend.readable.length
      · have onward := onward_iff.mpr full
        have fewer : next.queue.backend.readable.length / next.config.emitRange < cycles := by
          rw [takes.config, takes.readable, List.length_drop]
          rw [Nat.div_eq_sub_div positive full] at enough
          exact Nat.lt_of_succ_lt_succ enough
        have clearsNext : ∀ start ∈ startsWithin transport clock.later cycles next,
            start.emitter.Clears transport start.now := by
          intro start member
          refine clears start ?_
          rw [startsWithin_of_cycle running takes.cycled, if_pos onward]
          exact List.mem_cons_of_mem _ member
        obtain ⟨last, empties⟩ := inductionHypothesis (takes.paused.trans running)
          (by rw [takes.config, unbounded]) (by rw [takes.config]; exact positive) fewer clearsNext
        exact ⟨last, takes.empties_of_full clearsHere running unbounded full onward empties⟩
      · exact ⟨next, takes.empties_of_short clearsHere running unbounded (Nat.lt_of_not_le full)
          (Bool.eq_false_iff.mpr (mt onward_iff.mp full))⟩

/-- Requests that carry every readable row once carry no row number twice. -/
theorem Empties.ids_perm (empties : emitter.Empties transport clock cycles last) :
    ((emitter.answersWithin transport clock cycles).flatMap fun answered => answered.1.ids).Perm
      (emitter.queue.backend.readable.map QueuedEvent.id) := by
  have ids : ((emitter.answersWithin transport clock cycles).flatMap fun answered =>
        answered.1.ids) =
      ((emitter.answersWithin transport clock cycles).flatMap fun answered =>
        answered.1.events).map QueuedEvent.id := by
    rw [List.map_flatMap]
    rfl
  rw [ids]
  exact empties.carried.map QueuedEvent.id

theorem Empties.carriedRows_eq (empties : emitter.Empties transport clock cycles last) :
    carriedRows (emitter.answersWithin transport clock cycles) =
      emitter.queue.backend.readable.length := by
  rw [carriedRows, empties.ids_perm.length_eq, List.length_map]

end Drains

/-- A drain of a running emitter whose calls on the queue succeed and whose answers are all
final ends with the queue empty, whatever the clock shows at its cycles. A page takes up to as
many rows as the configured range, or one, and rows that cannot be read go with the page that
follows them. -/
theorem drain_empties_queue {config : DeliveryConfig} {emitter : Emitter} {transport : Transport}
    {clock : Time.Clock} {cycles : Nat} (setUp : emitter.config = config.normalized)
    (unevicted : config.eviction.isUnbounded = true) (running : emitter.paused = false)
    (enough : emitter.queue.backend.readable.length / max config.emitRange 1 < cycles)
    (clears : ∀ start ∈ startsWithin transport clock cycles emitter,
      start.emitter.Clears transport start.now) :
    let rows := emitter.queue.backend.readable
    let answers := emitter.answersWithin transport clock cycles
    ∃ report last,
      drainWithin transport clock cycles emitter = some (report, last) ∧
      (cycles ≤ endlessCycles → emitter.drain transport clock = (report, last)) ∧
      last.paused = false ∧
      last.queue.backend.contents = [] ∧
      last.handed = (emitter.stampedWithin transport clock cycles).reverse ++ emitter.handed ∧
      (answers.flatMap fun answered => answered.1.events).Perm rows ∧
      (answers.flatMap fun answered => answered.1.ids).Nodup ∧
      (startsWithin transport clock cycles emitter).Pairwise
        (CycleStart.RowsPrecede transport) ∧
      report.attempted = rows.length ∧
      report.sent + report.dropped = rows.length ∧
      report.retained = 0 ∧
      report.sent = carriedRows (answers.filter fun answered => answered.2.Delivers) := by
  intro rows answers
  have unbounded : emitter.config.eviction.isUnbounded = true := by
    rw [setUp]
    exact unevicted
  have range : emitter.config.emitRange = max config.emitRange 1 := by
    rw [setUp]
    rfl
  have positive : 0 < emitter.config.emitRange := by
    rw [range]
    exact Nat.le_max_right _ _
  rw [← range] at enough
  obtain ⟨last, empties⟩ := empties_of_clears running unbounded positive enough clears
  have distinct : (answers.flatMap fun answered => answered.1.ids).Nodup := by
    rw [empties.ids_perm.nodup_iff]
    exact emitter.queue.backend.readable_ascending.imp Int.ne_of_lt
  refine ⟨_, last, empties.ends, fun few => drain_eq_of_drainWithin few empties.ends,
    empties.running, empties.empty, empties.handed, empties.carried, distinct, empties.inOrder,
    rfl, ?_, ?_, ?_⟩
  · simp only [CycleReport.counting, Nat.zero_add]
    rw [deliveredRows_add_givenUpRows empties.final, empties.carriedRows_eq]
  · simp only [CycleReport.counting, Nat.zero_add]
    exact keptRows_of_final empties.final
  · simp only [CycleReport.counting, Nat.zero_add]
    rfl

/-! ### Queues that never fail -/

/-- The queue is in memory and refuses no call. -/
structure Undisturbed (emitter : Emitter) : Prop where
  inMemory : ∃ queue, emitter.queue.backend = .memory queue
  answering : ∀ call count, emitter.queue.refuses call count = false

theorem Undisturbed.removeSettled {emitter : Emitter} (undisturbed : emitter.Undisturbed)
    (ids : List RowId) : (emitter.removeSettled ids).Undisturbed := by
  obtain ⟨⟨queue, inMemory⟩, answering⟩ := undisturbed
  have removes : (emitter.removeRows ids).1 = .ok () :=
    removeRows_of_memory inMemory (answering _ _)
  rw [Emitter.removeSettled]
  split
  · next same =>
    rw [removeRows] at same
    split at same
    · obtain ⟨_, rfl⟩ := Prod.mk.inj same
      exact ⟨⟨queue, inMemory⟩, answering⟩
    · rw [EventQueue.remove, EventQueue.guarded, answering, inMemory] at same
      obtain ⟨_, rfl⟩ := Prod.mk.inj same
      exact ⟨⟨_, rfl⟩, answering⟩
  · next failed =>
    rw [failed] at removes
    cases removes

/-- Only the answers decide what a cycle leaves, and the queue stays as it is kept. -/
theorem Undisturbed.cycle {emitter : Emitter} (undisturbed : emitter.Undisturbed)
    (unbounded : emitter.config.eviction.isUnbounded = true) (transport : Transport) (now : Int) :
    emitter.CallsSucceed transport now {} ∧ (emitter.cycle transport now {}).2.Undisturbed := by
  obtain ⟨⟨queue, inMemory⟩, answering⟩ := undisturbed
  have read := readPage_of_memory unbounded (answering _ _) inMemory now
  obtain ⟨sent, sending, pageSent, sends, _, settled⟩ := cycle_eq_settle transport {} read
  have called : sending.queue = emitter.queue.called := pageSent.queue
  have inMemoryStill : sending.queue.backend = .memory queue := by
    rw [called]
    exact inMemory
  have answeringStill : ∀ call count, sending.queue.refuses call count = false := by
    rw [called]
    exact answering
  have undisturbedStill : sending.Undisturbed := ⟨⟨queue, inMemoryStill⟩, answeringStill⟩
  have kept := undisturbedStill.removeSettled (settledIds sending.config.retry sent.results)
  constructor
  · exact ⟨_, _, read, trivial, sent, sending, sends, trivial,
      removeRows_of_memory inMemoryStill (answeringStill _ _)⟩
  · have sameQueue : (emitter.cycle transport now {}).2.queue =
        (sending.removeSettled (settledIds sending.config.retry sent.results)).queue :=
      congrArg Outbox.queue settled
    constructor
    · rw [sameQueue]
      exact kept.inMemory
    · rw [sameQueue]
      exact kept.answering

/-- If the queue never fails, all that counts is that the transport answers finally. -/
theorem clears_of_undisturbed {emitter : Emitter} {transport : Transport} {clock : Time.Clock}
    (undisturbed : emitter.Undisturbed) (unbounded : emitter.config.eviction.isUnbounded = true)
    (final : ∀ now index request,
      emitter.config.retry.Final request (transport.answer index (request.stamped now)))
    (cycles : Nat) :
    ∀ start ∈ startsWithin transport clock cycles emitter,
      start.emitter.Clears transport start.now := by
  induction cycles generalizing emitter clock with
  | zero => exact fun start member => absurd member List.not_mem_nil
  | succ cycles inductionHypothesis =>
      obtain ⟨succeed, undisturbedNext⟩ := undisturbed.cycle unbounded transport clock.now
      have clears : emitter.Clears transport clock.now := by
        refine ⟨succeed, fun answered member => ?_⟩
        obtain ⟨index, isAnswer⟩ := Transport.answer_of_mem member
        rw [isAnswer]
        exact final clock.now index answered.1
      obtain ⟨next, takes⟩ := clears.takesPage unbounded
      rw [takes.cycled] at undisturbedNext
      have clearsNext : ∀ start ∈ startsWithin transport clock.later cycles next,
          start.emitter.Clears transport start.now :=
        inductionHypothesis undisturbedNext (by rw [takes.config, unbounded])
          (by rw [takes.config]; exact final)
      cases paused : emitter.paused with
      | true =>
          rw [startsWithin, if_pos paused]
          exact fun start member => absurd member List.not_mem_nil
      | false =>
          rw [startsWithin_of_cycle paused takes.cycled]
          refine List.forall_mem_cons.mpr ⟨clears, ?_⟩
          split
          · exact clearsNext
          · exact fun start member => absurd member List.not_mem_nil

/-- Three rows leave in pages of one row, because the configured range is none. The second
is given up. The clock goes on from cycle to cycle. -/
theorem drain_empties_three_rows :
    let emitter := ofEmptyRows 3 0 fun _ _ => false
    let transport : Transport := ⟨.get, fun index request =>
      .returned (request.result (some (if index = 1 then 410 else 200)))⟩
    let clock : Time.Clock := ⟨Int.ofNat⟩
    (∀ start ∈ startsWithin transport clock 4 emitter,
        start.emitter.Clears transport start.now) ∧
      ∃ report last, emitter.drain transport clock = (report, last) ∧
        report.attempted = 3 ∧ report.sent + report.dropped = 3 ∧
        last.queue.backend.contents = [] := by
  intro emitter transport clock
  have clears : ∀ start ∈ startsWithin transport clock 4 emitter,
      start.emitter.Clears transport start.now := by
    refine clears_of_undisturbed ⟨⟨_, rfl⟩, fun _ _ => rfl⟩ rfl (fun _ index request => ?_) 4
    by_cases second : index = 1
    · exact .inr (.inr (.inr (.inr ⟨_, rfl, .inr ⟨rfl, by simp [second]⟩⟩)))
    · exact .inl ⟨_, rfl, by simp [second]⟩
  have setUp : emitter.config = ({ emitRange := 0 } : DeliveryConfig).normalized := rfl
  obtain ⟨report, last, _, drained, _, empty, _, _, _, _, attempted, total, _, _⟩ :=
    drain_empties_queue setUp rfl rfl (by decide) clears
  have rows : emitter.queue.backend.readable.length = 3 := by decide
  exact ⟨clears, report, last, drained (by decide), attempted.trans rows, total.trans rows, empty⟩

end Emitter

end Telemetry

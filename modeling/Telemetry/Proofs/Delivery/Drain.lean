import Telemetry.Proofs.Delivery.Cycle

/-!
Contract: how far a drain goes, and which rows it hands over.

Owns:
- the step from a cycle of a drain to the next one, with what it says of the rows;
- when a drain ends, hands over no row twice, and goes on only after all rows of a
  page have left;
- a drain that goes on for ever.

Does not own: what one cycle does, and rows that are inserted while a drain runs.
-/

namespace Telemetry

namespace Emitter

/-! ### From one cycle to the next -/

/-- A drain goes on from the cycle that starts at the first emitter to a cycle that
starts at the second. -/
structure GoesOnTo (transport : Transport) (now : Int) (emitter next : Emitter) : Prop where
  running : emitter.paused = false
  cycled : ∃ report,
    emitter.cycle transport now {} = (some report, next) ∧ goesOn next.config report = true
  runsStill : next.paused = false

/-- A drain that starts at the first emitter comes to a cycle that starts at the second, at the
instant that its clock then shows. -/
inductive Reaches (transport : Transport) : Time.Clock → Emitter → Int → Emitter → Prop where
  | here (clock : Time.Clock) (emitter : Emitter) :
      Reaches transport clock emitter clock.now emitter
  | onward {clock : Time.Clock} {emitter next current : Emitter} {now : Int}
      (step : emitter.GoesOnTo transport clock.now next)
      (rest : Reaches transport clock.later next now current) :
      Reaches transport clock emitter now current

section Steps

variable {emitter next : Emitter} {transport : Transport} {now : Int}

theorem handed_of_cycle {report : CycleReport}
    (cycled : emitter.cycle transport now {} = (some report, next)) :
    next.handed = emitter.handedAt transport now ++ emitter.handed := by
  rcases emitter.readPage_cases now with ⟨_, _, _, _, failed⟩ | ⟨queue, _, read⟩
  · rw [cycle, failed] at cycled
    cases cycled
  · obtain ⟨sent, sending, pageSent, _, _, settled⟩ := cycle_eq_settle transport {} read
    rw [cycled] at settled
    rw [settled, (settle_frame _ _).2]
    exact pageSent.handed

theorem handed_of_unread
    (cycled : emitter.cycle transport now {} = (none, next)) :
    next.handed = emitter.handed := by
  rcases emitter.readPage_cases now with ⟨_, _, _, _, failed⟩ | ⟨queue, _, read⟩
  · rw [cycle, failed] at cycled
    obtain ⟨_, rfl⟩ := Prod.mk.inj cycled
    rfl
  · obtain ⟨_, _, _, _, reported, _⟩ := cycle_eq_settle transport {} read
    rw [cycled] at reported
    cases reported

/-- What is known of a cycle that a drain goes on after: it pulled a full page, no
request is kept, and the rows of all final answers are gone. -/
structure PageCleared (transport : Transport) (now : Int) (emitter next : Emitter) : Prop where
  handed : next.handed = emitter.handedAt transport now ++ emitter.handed
  full : 0 < (emitter.pageAt now).length
  rows : emitter.queue.backend.HasRows
    ((emitter.rowsAt now).filter fun row =>
      ¬emitter.config.retry.Removes (emitter.answersAt transport now) row.id)
    next.queue.backend
  keepsNone : ∀ answered ∈ emitter.answersAt transport now,
    ¬emitter.config.retry.Keeps answered.1 answered.2

theorem GoesOnTo.pageCleared (step : emitter.GoesOnTo transport now next) :
    emitter.PageCleared transport now next := by
  obtain ⟨_, ⟨report, cycled, onward⟩, runsStill⟩ := step
  have handed := handed_of_cycle cycled
  rcases emitter.readPage_cases now with ⟨_, _, _, _, failed⟩ | ⟨queue, _, read⟩
  · rw [cycle, failed] at cycled
    cases cycled
  obtain ⟨sent, sending, pageSent, _, reported, settled⟩ := cycle_eq_settle transport {} read
  rw [cycled] at reported settled
  have counted := Option.some.inj reported
  rw [settle_report pageSent] at counted
  rw [goesOn, Bool.and_eq_true, Bool.and_eq_true, counted] at onward
  obtain ⟨⟨some, _⟩, noneKept⟩ := onward
  refine ⟨handed, of_decide_eq_true some, ?_, ?_⟩
  · rcases settle_cases (sending.accept []) sent with ⟨_, paused, _⟩ | ⟨_, _, left⟩
    · have nextPaused : next.paused = true := by
        rw [settled]
        exact paused
      rw [runsStill] at nextPaused
      cases nextPaused
    · have atRest : (sending.accept []).queue = _ := pageSent.queue
      have sameRows := mem_settledIds_of_pageSent pageSent
      simp only [sameRows] at left
      rw [settled]
      rw [atRest] at left
      rw [← pageSent.rows.contents]
      exact pageSent.rows.trans left
  · intro answered member keeps
    have countsNone : carriedRows ((emitter.answersAt transport now).filter fun answered =>
        emitter.config.retry.Keeps answered.1 answered.2) = 0 := by
      have retained := of_decide_eq_true noneKept
      rw [CycleReport.counting] at retained
      exact (Nat.zero_add _).symm.trans retained
    refine ids_ne_nil_of_answered member (carriedRows_eq_zero countsNone answered ?_)
    exact List.mem_filter.mpr ⟨member, decide_eq_true keeps⟩

/-- A full page that keeps no request makes a drain go on, even if sendings broke off. -/
theorem goesOnTo_of_callsSucceed (running : emitter.paused = false)
    (succeed : emitter.CallsSucceed transport now {}) (some : 0 < (emitter.pageAt now).length)
    (full : emitter.config.emitRange ≤ (emitter.pageAt now).length)
    (keepsNone : ∀ answered ∈ emitter.answersAt transport now,
      ¬emitter.config.retry.Keeps answered.1 answered.2) :
    emitter.GoesOnTo transport now (emitter.cycle transport now {}).2 := by
  obtain ⟨page, reading, read, _, sent, sending, sends, _, removes⟩ := succeed
  obtain ⟨sent', sending', pageSent, sends', reported, settled⟩ :=
    cycle_eq_settle transport {} read
  obtain ⟨rfl, rfl⟩ := Prod.mk.inj (sends.symm.trans sends')
  rw [settle_report pageSent] at reported
  have config : (emitter.cycle transport now {}).2.config = emitter.config := by
    rw [settled, (settle_frame _ _).1]
    exact pageSent.config
  have retained : (emitter.answersAt transport now).filter (fun answered =>
      emitter.config.retry.Keeps answered.1 answered.2) = [] := by
    apply List.filter_eq_nil_iff.mpr
    intro answered member
    rw [decide_eq_true_iff]
    exact keepsNone answered member
  refine ⟨running, ⟨_, Prod.ext reported rfl, ?_⟩, ?_⟩
  · rw [goesOn, config, CycleReport.counting, retained]
    simp [some, full]
  · rcases settle_cases (sending.accept []) sent with ⟨⟨_, failed⟩, _⟩ | ⟨_, samePaused, _⟩
    · have clash := failed.symm.trans removes
      cases clash
    · rw [settled]
      exact samePaused.trans (pageSent.paused.trans running)

namespace PageCleared

theorem contents_sublist (cleared : emitter.PageCleared transport now next) :
    next.queue.backend.contents.Sublist emitter.queue.backend.contents := by
  rw [cleared.rows.contents]
  exact List.filter_sublist.trans (emitter.rowsAt_sublist now)

/-- If no sending broke off, all pulled rows have left. -/
theorem pulled_removed (cleared : emitter.PageCleared transport now next)
    (unbroken : ∀ answered ∈ emitter.answersAt transport now, answered.2 ≠ .panicked)
    {event : QueuedEvent} (pulled : event ∈ emitter.pageAt now) :
    ∀ row ∈ next.queue.backend.contents, row.id ≠ event.id := by
  intro row stays same
  rw [cleared.rows.contents] at stays
  obtain ⟨_, notRemoved⟩ := List.mem_filter.mp stays
  obtain ⟨answered, member, inRequest⟩ := answered_of_pulled transport pulled
  have final : emitter.config.retry.Final answered.1 answered.2 := by
    apply Decidable.byContradiction
    intro notFinal
    exact cleared.keepsNone answered member ⟨unbroken answered member, notFinal⟩
  rw [← same] at inRequest
  exact of_decide_eq_true notRemoved ⟨answered, member, inRequest, final⟩

/-- If a sending broke off, a pulled row is still in the queue. -/
theorem pulled_stays (cleared : emitter.PageCleared transport now next)
    {answered : Request × Answer} (member : answered ∈ emitter.answersAt transport now)
    (broken : answered.2 = .panicked) :
    ∃ event ∈ emitter.pageAt now, ∃ row ∈ next.queue.backend.contents, row.id = event.id := by
  obtain ⟨id, inRequest⟩ := List.exists_mem_of_ne_nil _ (ids_ne_nil_of_answered member)
  obtain ⟨⟨event, pulled, isEvent⟩, row, left, isRow⟩ := row_of_answered member inRequest
  refine ⟨event, pulled, row, ?_, isRow.trans isEvent.symm⟩
  rw [cleared.rows.contents]
  refine List.mem_filter.mpr ⟨left, decide_eq_true ?_⟩
  rw [isRow]
  rintro ⟨other, inAnswers, carries, final⟩
  rw [answered_unique inAnswers carries member inRequest, broken] at final
  exact RetryRules.not_final_panicked _ _ final

/-- If no sending broke off, the queue has become shorter. -/
theorem contents_shorter (cleared : emitter.PageCleared transport now next)
    (unbroken : ∀ answered ∈ emitter.answersAt transport now, answered.2 ≠ .panicked) :
    next.queue.backend.contents.length < emitter.queue.backend.contents.length := by
  have sub := cleared.contents_sublist
  apply Nat.lt_of_le_of_ne sub.length_le
  intro sameLength
  obtain ⟨event, pulled⟩ := List.exists_mem_of_length_pos cleared.full
  obtain ⟨answered, member, inRequest⟩ := answered_of_pulled transport pulled
  obtain ⟨_, row, left, isRow⟩ := row_of_answered member inRequest
  have stays : row ∈ next.queue.backend.contents := by
    rw [sub.eq_of_length sameLength]
    exact (emitter.rowsAt_sublist now).subset left
  exact cleared.pulled_removed unbroken pulled row stays isRow

end PageCleared

end Steps

/-! ### The whole drain -/

theorem drainWithin_of_paused {emitter : Emitter} (paused : emitter.paused = true)
    (transport : Transport) (clock : Time.Clock) (cycles : Nat) :
    drainWithin transport clock cycles emitter = some ({}, emitter) := by
  cases cycles with
  | zero => rw [drainWithin, if_pos paused]
  | succ cycles => rw [drainWithin, if_pos paused]

/-- After a cycle a drain goes on with what the cycle leaves, or ends with it. -/
theorem drainWithin_of_cycle {transport : Transport} {clock : Time.Clock}
    {emitter next : Emitter} {report : CycleReport} (running : emitter.paused = false)
    (cycled : emitter.cycle transport clock.now {} = (some report, next)) (cycles : Nat) :
    drainWithin transport clock (cycles + 1) emitter =
      if goesOn next.config report then
        (drainWithin transport clock.later cycles next).map fun rest =>
          (report.add rest.1, rest.2)
      else
        some (report, next) := by
  rw [drainWithin, if_neg (by simp [running]), cycled]

/-- A larger bound changes nothing. -/
theorem drainWithin_mono {transport : Transport} {clock : Time.Clock} {emitter : Emitter}
    {result : CycleReport × Emitter} {cycles more : Nat} (few : cycles ≤ more)
    (ends : drainWithin transport clock cycles emitter = some result) :
    drainWithin transport clock more emitter = some result := by
  induction cycles generalizing clock emitter result more with
  | zero =>
      rw [drainWithin] at ends
      split at ends
      · next paused =>
        rw [drainWithin_of_paused paused]
        exact ends
      · cases ends
  | succ cycles inductionHypothesis =>
      obtain ⟨more, rfl⟩ := Nat.exists_eq_add_of_le' few
      rw [Nat.add_succ, drainWithin]
      rw [drainWithin] at ends
      split
      · next paused =>
        rw [if_pos paused] at ends
        exact ends
      next running =>
      rw [if_neg running] at ends
      cases cycled : emitter.cycle transport clock.now {} with
      | mk answer next =>
          rw [cycled] at ends
          cases answer with
          | none => exact ends
          | some report =>
              simp only at ends ⊢
              split
              · next onward =>
                rw [if_pos onward] at ends
                obtain ⟨rest, restEnds, same⟩ := Option.map_eq_some_iff.mp ends
                rw [inductionHypothesis (Nat.le_add_left cycles more) restEnds, ← same]
                rfl
              · next stops =>
                rw [if_neg stops] at ends
                exact ends

theorem drain_eq_of_drainWithin {transport : Transport} {clock : Time.Clock} {emitter : Emitter}
    {result : CycleReport × Emitter} {cycles : Nat} (few : cycles ≤ endlessCycles)
    (ends : drainWithin transport clock cycles emitter = some result) :
    emitter.drain transport clock = result := by
  rw [drain, drainWithin_mono few ends]
  rfl

/-- A drain ends after at most one cycle, or it goes on. -/
theorem drainWithin_cases (emitter : Emitter) (transport : Transport) (clock : Time.Clock)
    (cycles : Nat) :
    (∃ report final newly,
        drainWithin transport clock (cycles + 1) emitter = some (report, final) ∧
        final.handed = newly ++ emitter.handed ∧
        (newly = [] ∨ newly = emitter.handedAt transport clock.now)) ∨
      ∃ (report : CycleReport) (next : Emitter), emitter.GoesOnTo transport clock.now next ∧
        drainWithin transport clock (cycles + 1) emitter =
          (drainWithin transport clock.later cycles next).map fun rest =>
            (report.add rest.1, rest.2) := by
  rw [drainWithin]
  split
  · exact .inl ⟨_, _, [], rfl, rfl, .inl rfl⟩
  next running =>
  split
  · next final cycled => exact .inl ⟨_, _, [], rfl, handed_of_unread cycled, .inl rfl⟩
  next report next cycled =>
  have handed := handed_of_cycle cycled
  split
  · next onward =>
    by_cases paused : next.paused = true
    · rw [drainWithin_of_paused paused]
      exact .inl ⟨_, _, _, rfl, handed, .inr rfl⟩
    · rw [Bool.not_eq_true] at running paused
      exact .inr ⟨report, next, ⟨running, ⟨report, cycled, onward⟩, paused⟩, rfl⟩
  · exact .inl ⟨_, _, _, rfl, handed, .inr rfl⟩

/-- No cycle that the drain goes on after has a sending that broke off. -/
def Unbroken (transport : Transport) (clock : Time.Clock) (emitter : Emitter) : Prop :=
  ∀ now current next, Reaches transport clock emitter now current →
    current.GoesOnTo transport now next →
      ∀ answered ∈ current.answersAt transport now, answered.2 ≠ .panicked

/-- A drain ends after at most one cycle more than there are rows, hands over no row
twice, and goes on only after a cycle that left no pulled row in the queue. -/
structure DrainsOnce (transport : Transport) (clock : Time.Clock) (emitter : Emitter) :
    Prop where
  ends : ∃ report final newly,
    drainWithin transport clock (emitter.queue.backend.contents.length + 1) emitter =
        some (report, final) ∧
      final.handed = newly ++ emitter.handed ∧ (newly.flatMap Request.ids).Nodup
  cleared : ∀ now current next,
    Reaches transport clock emitter now current → current.GoesOnTo transport now next →
      ∀ event ∈ current.pageAt now, ∀ row ∈ next.queue.backend.contents, row.id ≠ event.id

/-- Without broken sendings a drain hands over only rows that are in the queue, and each
once. The induction is on the bound of cycles, which stays above the number of rows: every
cycle that the drain goes on after makes the rows fewer. -/
theorem drainWithin_of_unbroken {transport : Transport} {clock : Time.Clock} {emitter : Emitter}
    (unbroken : Unbroken transport clock emitter) {cycles : Nat}
    (enough : emitter.queue.backend.contents.length < cycles) :
    ∃ report final newly, drainWithin transport clock cycles emitter = some (report, final) ∧
      final.handed = newly ++ emitter.handed ∧ (newly.flatMap Request.ids).Nodup ∧
      ∀ id ∈ newly.flatMap Request.ids, id ∈ emitter.queue.backend.contents.map StoredRow.id := by
  induction cycles generalizing clock emitter with
  | zero => exact absurd enough (Nat.not_lt_zero _)
  | succ cycles inductionHypothesis =>
      have pageIds := emitter.handedAt_ids_perm transport clock.now
      have pageNodup : ((emitter.handedAt transport clock.now).flatMap Request.ids).Nodup := by
        rw [pageIds.nodup_iff]
        exact (emitter.pageAt_ids_numbered clock.now).nodup
      have pageStored : ∀ id ∈ (emitter.handedAt transport clock.now).flatMap Request.ids,
          id ∈ emitter.queue.backend.contents.map StoredRow.id := by
        intro id member
        have inPage := pageIds.subset member
        exact ((emitter.rowsAt_sublist clock.now).map _).subset
          ((emitter.pageAt_ids_sublist clock.now).subset inPage)
      rcases drainWithin_cases emitter transport clock cycles with
        ⟨report, final, newly, ends, handed, rfl | rfl⟩ | ⟨report, next, step, goes⟩
      · exact ⟨report, final, [], ends, handed, List.nodup_nil, nofun⟩
      · exact ⟨report, final, _, ends, handed, pageNodup, pageStored⟩
      · have cleared := step.pageCleared
        have unbrokenHere := unbroken clock.now emitter next (.here clock emitter) step
        have fewer := cleared.contents_shorter unbrokenHere
        have unbrokenNext : Unbroken transport clock.later next := fun now current after reaches =>
          unbroken now current after (.onward step reaches)
        obtain ⟨rest, final, newly, ends, handed, nodup, stored⟩ :=
          inductionHypothesis unbrokenNext (by omega)
        refine ⟨report.add rest, final, newly ++ emitter.handedAt transport clock.now,
          ?_, ?_, ?_, ?_⟩
        · rw [goes, ends]
          rfl
        · rw [handed, cleared.handed, List.append_assoc]
        · rw [List.flatMap_append, List.nodup_append]
          refine ⟨nodup, pageNodup, ?_⟩
          rintro id later _ here rfl
          obtain ⟨row, stays, isRow⟩ := List.mem_map.mp (stored id later)
          obtain ⟨event, pulled, isEvent⟩ := List.mem_map.mp (pageIds.subset here)
          exact cleared.pulled_removed unbrokenHere pulled row stays (isRow.trans isEvent.symm)
        · intro id member
          rw [List.flatMap_append] at member
          rcases List.mem_append.mp member with later | here
          · exact (cleared.contents_sublist.map _).subset (stored id later)
          · exact pageStored id here

/-- A drain keeps to its promise exactly if it goes on after no cycle with a broken
sending: such a cycle counts its rows as pulled, and neither as kept. -/
theorem drainsOnce_iff_unbroken (transport : Transport) (clock : Time.Clock)
    (emitter : Emitter) :
    DrainsOnce transport clock emitter ↔ Unbroken transport clock emitter := by
  constructor
  · intro once now current next reaches step answered member broken
    obtain ⟨event, pulled, row, stays, same⟩ := step.pageCleared.pulled_stays member broken
    exact once.cleared now current next reaches step event pulled row stays same
  · intro unbroken
    obtain ⟨report, final, newly, ends, handed, nodup, _⟩ :=
      drainWithin_of_unbroken unbroken (Nat.lt_succ_self _)
    refine ⟨⟨report, final, newly, ends, handed, nodup⟩, ?_⟩
    intro now current next reaches step event pulled
    exact step.pageCleared.pulled_removed (unbroken now current next reaches step) pulled

/-- Of two rows one is delivered and the sending of the other breaks off. The drain goes
on, and the second row is still there. -/
theorem broken_sending_spins :
    ¬DrainsOnce (.answeringStatuses [some 200]) (.still 0)
      (ofEmptyRows 2 2 fun _ _ => false) := by
  intro once
  have step : GoesOnTo (.answeringStatuses [some 200]) 0 (ofEmptyRows 2 2 fun _ _ => false) _ :=
    goesOnTo_of_callsSucceed rfl
      ⟨_, _, rfl, trivial, _, _, rfl, trivial, removeRows_of_memory rfl rfl⟩
      (by decide) (by decide) (by decide)
  have second : (⟨[⟨2, .empty⟩], false⟩, .panicked) ∈
      (ofEmptyRows 2 2 fun _ _ => false).answersAt (.answeringStatuses [some 200]) 0 := by
    decide
  obtain ⟨event, pulled, row, stays, same⟩ := step.pageCleared.pulled_stays second rfl
  exact once.cleared _ _ _ (.here _ _) step event pulled row stays same

/-! ### A drain without end -/

/-- A page is full, the queue is in memory and never refuses, and every sending breaks
off. -/
structure Spins (transport : Transport) (emitter : Emitter) : Prop where
  running : emitter.paused = false
  unbounded : emitter.config.eviction.isUnbounded = true
  answering : ∀ call count, emitter.queue.refuses call count = false
  inMemory : ∃ queue, emitter.queue.backend = .memory queue ∧
    emitter.config.emitRange ≤ queue.rows.length
  some : 0 < emitter.config.emitRange
  breaking : ∀ index request, transport.answer index request = .panicked

theorem answersAt_of_breaking {transport : Transport}
    (breaking : ∀ index request, transport.answer index request = .panicked)
    (emitter : Emitter) (now : Int) :
    ∀ answered ∈ emitter.answersAt transport now, answered.2 = .panicked := by
  intro answered member
  obtain ⟨index, isAnswer⟩ := Transport.answer_of_mem member
  rw [isAnswer]
  exact breaking index _

/-- Such a cycle changes nothing but what was handed over and the number of calls, so
the next one is like it. -/
theorem Spins.goesOnTo {transport : Transport} {emitter : Emitter}
    (spins : emitter.Spins transport) (now : Int) :
    emitter.GoesOnTo transport now (emitter.cycle transport now {}).2 ∧
      (emitter.cycle transport now {}).2.Spins transport := by
  obtain ⟨queue, inMemory, long⟩ := spins.inMemory
  have read := readPage_of_memory spins.unbounded (spins.answering _ _) inMemory now
  have isPage : queue.emittable emitter.config.emitRange = emitter.pageAt now := by
    rcases emitter.readPage_cases now with ⟨_, _, _, _, failed⟩ | ⟨_, _, isRead⟩
    · rw [failed] at read
      cases read
    · exact Option.some.inj (Prod.mk.inj (read.symm.trans isRead)).1
  have pageLength : (emitter.pageAt now).length = emitter.config.emitRange := by
    rw [← isPage, MemoryQueue.emittable_eq, List.length_map, List.length_take]
    omega
  have broken := answersAt_of_breaking spins.breaking emitter now
  obtain ⟨sent, sending, pageSent, sends, _, settled⟩ := cycle_eq_settle transport {} read
  have noResults : sent.results = [] := by
    rw [pageSent.results, List.filterMap_eq_nil_iff]
    intro answered member
    rw [broken answered member]
    rfl
  obtain ⟨removes, same⟩ := settle_of_noResults (sending.accept []) noResults
  rw [same] at settled
  have queueSame : (emitter.cycle transport now {}).2.queue = emitter.queue.called := by
    rw [settled]
    exact pageSent.queue
  have configSame : (emitter.cycle transport now {}).2.config = emitter.config := by
    rw [settled]
    exact pageSent.config
  have pausedSame : (emitter.cycle transport now {}).2.paused = emitter.paused := by
    rw [settled]
    exact pageSent.paused
  constructor
  · refine goesOnTo_of_callsSucceed spins.running
      ⟨_, _, read, trivial, sent, sending, sends, trivial, removes⟩ ?_ ?_ ?_
    · rw [pageLength]
      exact spins.some
    · exact Nat.le_of_eq pageLength.symm
    · intro answered member keeps
      exact keeps.1 (broken answered member)
  · constructor
    · rw [pausedSame, spins.running]
    · rw [configSame, spins.unbounded]
    · rw [queueSame]
      exact spins.answering
    · rw [queueSame, configSame]
      exact ⟨queue, inMemory, long⟩
    · rw [configSame]
      exact spins.some
    · exact spins.breaking

/-- Sendings that all break off keep a drain going for ever. -/
theorem Spins.drainWithin_eq_none {transport : Transport} {emitter : Emitter}
    (spins : emitter.Spins transport) (clock : Time.Clock) (cycles : Nat) :
    drainWithin transport clock cycles emitter = none := by
  induction cycles generalizing clock emitter with
  | zero =>
      rw [drainWithin, if_neg]
      rw [spins.running]
      exact Bool.false_ne_true
  | succ cycles inductionHypothesis =>
      obtain ⟨⟨running, ⟨report, cycled, onward⟩, _⟩, spinsNext⟩ := spins.goesOnTo clock.now
      rw [drainWithin_of_cycle running cycled, if_pos onward, inductionHypothesis spinsNext]
      rfl

end Emitter

end Telemetry

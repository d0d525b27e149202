import Telemetry.Flush
import Telemetry.Proofs.Delivery.Accounting
import Telemetry.Proofs.Delivery.Clearing

/-!
Contract: a flush ends, and its report adds up.

Owns:
- a flush as one cycle after another, each at its own instant, with the counts of the drain
  that is under way and of those before it;
- what the cycles so far have taken off the queue, and that nothing else is missing;
- that the cycles come to an end, and that the two loops of a flush run the same cycles.

Does not own: what one cycle does, and flushes in which a call on the queue fails.

Rows are the measure of both loops. A drain goes on only after a cycle that took rows off,
and is followed by another drain only if it did so; but the last cycle of a drain can find
nothing, so that a cycle need not make the rows fewer.
-/

namespace Telemetry

theorem CycleReport.add_assoc (first second third : CycleReport) :
    (first.add second).add third = first.add (second.add third) := by
  simp [add, Nat.add_assoc]

theorem CycleReport.empty_add (report : CycleReport) : add {} report = report := by
  simp [add]

namespace Flush

/-! ### Cycle after cycle -/

/-- A flush between two cycles: its emitter, with the counts of the drain that is under way
and of the drains before it; or what it came to. -/
inductive Stage where
  | running (emitter : Emitter) (drained delivered : CycleReport)
  | ended (report : CycleReport) (last : Emitter)

/-- What follows a drain. -/
def Stage.close (delivered drained : CycleReport) (emitter : Emitter) : Stage :=
  if drained.attempted = 0 || 0 < drained.retained then
    .ended (delivered.add drained) emitter
  else
    .running emitter {} (delivered.add drained)

theorem Stage.close_cases (delivered drained : CycleReport) (emitter : Emitter) :
    (drained.attempted = 0 ∨ 0 < drained.retained) ∧
        close delivered drained emitter = .ended (delivered.add drained) emitter ∨
      0 < drained.attempted ∧ drained.retained = 0 ∧
        close delivered drained emitter = .running emitter {} (delivered.add drained) := by
  unfold close
  split
  · next stops =>
    rw [Bool.or_eq_true, decide_eq_true_eq, decide_eq_true_eq] at stops
    exact .inl ⟨stops, rfl⟩
  · next onward =>
    rw [Bool.or_eq_true, decide_eq_true_eq, decide_eq_true_eq, not_or] at onward
    exact .inr ⟨Nat.pos_of_ne_zero onward.1, Nat.eq_zero_of_not_pos onward.2, rfl⟩

/-- One cycle, and what follows it. -/
def Stage.proceed (transport : Transport) (now : Int) : Stage → Stage
  | .ended report last => .ended report last
  | .running emitter drained delivered =>
    if emitter.paused then
      .close delivered drained emitter
    else
      match emitter.cycle transport now {} with
      | (none, next) => .close delivered drained next
      | (some report, next) =>
        if Emitter.goesOn next.config report then
          .running next (drained.add report) delivered
        else
          .close delivered (drained.add report) next

/-- The stage after some cycles, of which each has an instant. -/
def stageAt (transport : Transport) (clock : Nat → Int) (start : Stage) : (cycles : Nat) → Stage
  | 0 => start
  | cycles + 1 => (stageAt transport clock start cycles).proceed transport (clock cycles)

/-- What `part` says of the cycles so far, oldest first: of the emitter at which each of them
starts, and of its instant. -/
def collected {α : Type} (transport : Transport) (clock : Nat → Int) (start : Stage)
    (part : Emitter → Int → List α) (cycles : Nat) : List α :=
  (List.range cycles).flatMap fun cycle =>
    match stageAt transport clock start cycle with
    | .running emitter _ _ => part emitter (clock cycle)
    | .ended _ _ => []

/-- The emitter of a flush. -/
def emitter (flush : Flush) (queue : EventQueue) : Emitter :=
  { Outbox.ofQueue queue flush.configuration.deliveryConfig with bus := Bus.standard }

section Stages

variable {α : Type} {transport : Transport} {clock : Nat → Int} {start : Stage} {cycles : Nat}

theorem collected_of_running {part : Emitter → Int → List α} {emitter : Emitter}
    {drained delivered : CycleReport}
    (running : stageAt transport clock start cycles = .running emitter drained delivered) :
    collected transport clock start part (cycles + 1) =
      collected transport clock start part cycles ++ part emitter (clock cycles) := by
  simp only [collected, List.range_succ, List.flatMap_append, List.flatMap_singleton, running]

theorem collected_of_ended {part : Emitter → Int → List α} {report : CycleReport}
    {last : Emitter} (ended : stageAt transport clock start cycles = .ended report last) :
    collected transport clock start part (cycles + 1) =
      collected transport clock start part cycles := by
  simp only [collected, List.range_succ, List.flatMap_append, List.flatMap_singleton, ended,
    List.append_nil]

/-- Every store call of the cycles that start from here succeeds. -/
def CallsSucceed (transport : Transport) (clock : Nat → Int) (start : Stage) : Prop :=
  ∀ cycle emitter drained delivered,
    stageAt transport clock start cycle = .running emitter drained delivered →
      emitter.CallsSucceed transport (clock cycle) {}

/-! ### The account of the cycles so far -/

/-- What was reported and taken off so far, by a flush that started at `first`. -/
structure Accounts (transport : Transport) (clock : Nat → Int) (first : Emitter) (cycles : Nat)
    (report : CycleReport) (emitter : Emitter) : Prop where
  config : emitter.config = first.config
  paused : emitter.paused = first.paused
  later : first.queue.Later emitter.queue
  counted : ∃ attempted, report = CycleReport.counting first.config.retry
    { attempted := attempted }
    (collected transport clock (.running first {} {})
      (fun start now => start.answersAt transport now) cycles)
  rows : first.queue.backend.contents.length =
    report.sent + report.dropped +
      (collected transport clock (.running first {} {}) Emitter.evictedAt cycles).length +
      (collected transport clock (.running first {} {}) Emitter.unreadableAt cycles).length +
      emitter.queue.backend.contents.length
  unreadable : ∀ row ∈ collected transport clock (.running first {} {}) Emitter.unreadableAt
    cycles, row.event? = none
  keeps : ∀ answered ∈ collected transport clock (.running first {} {})
      (fun start now => start.answersAt transport now) cycles,
    first.config.retry.Keeps answered.1 answered.2 →
      ∀ id ∈ answered.1.ids, id ∈ emitter.queue.backend.contents.map StoredRow.id

/-- The account of a stage. While the flush is running no row was kept. -/
def Stage.Accounted (transport : Transport) (clock : Nat → Int) (first : Emitter)
    (cycles : Nat) : Stage → Prop
  | .running emitter drained delivered =>
    Accounts transport clock first cycles (delivered.add drained) emitter ∧
      drained.retained = 0 ∧ delivered.retained = 0
  | .ended report last =>
    Accounts transport clock first cycles report last ∧
      (0 < report.retained ∨ last.queue.backend.contents = [])

variable {first emitter next : Emitter} {drained delivered report : CycleReport}

/-- Before the first cycle nothing is missing. -/
theorem accounts_start (transport : Transport) (clock : Nat → Int) (first : Emitter) :
    Accounts transport clock first 0 {} first where
  config := rfl
  paused := rfl
  later := EventQueue.later_self _
  counted := ⟨0, (CycleReport.counting_nil _ _).symm⟩
  rows := by simp [collected]
  unreadable := by simp [collected]
  keeps := by simp [collected]

/-- A cycle whose calls succeed is added to the account, unless a row was kept before. -/
theorem Accounts.step (accounts : Accounts transport clock first cycles report emitter)
    (keptNone : report.retained = 0)
    (running : stageAt transport clock (.running first {} {}) cycles =
      .running emitter drained delivered)
    (settles : emitter.Settles transport (clock cycles) next) :
    Accounts transport clock first (cycles + 1)
      (report.add (emitter.reportAt transport (clock cycles))) next := by
  obtain ⟨attempted, counted⟩ := accounts.counted
  constructor
  case config => exact settles.config.trans accounts.config
  case paused => exact settles.paused.trans accounts.paused
  case later => exact accounts.later.trans settles.later
  case counted =>
    refine ⟨attempted + (emitter.pageAt (clock cycles)).length, ?_⟩
    rw [collected_of_running running, ← CycleReport.add_counting, ← counted, Emitter.reportAt,
      accounts.config]
  case rows =>
    have before := accounts.rows
    have balance := settles.balance
    rw [collected_of_running running, collected_of_running running, List.length_append,
      List.length_append]
    simp only [CycleReport.add]
    omega
  case unreadable =>
    rw [collected_of_running running]
    exact List.forall_mem_append.mpr
      ⟨accounts.unreadable, fun _ => Emitter.event?_of_mem_unreadableAt⟩
  case keeps =>
    rw [collected_of_running running]
    refine List.forall_mem_append.mpr ⟨fun answered member kept id inRequest => ?_,
      fun answered member kept => ?_⟩
    · rw [counted] at keptNone
      simp only [CycleReport.counting, Nat.zero_add] at keptNone
      have noRows := carriedRows_eq_zero keptNone answered
        (List.mem_filter.mpr ⟨member, decide_eq_true kept⟩)
      rw [noRows] at inRequest
      cases inRequest
    · rw [← accounts.config] at kept
      exact settles.keeps member kept

theorem Accounts.of_ended {last : Emitter}
    (accounts : Accounts transport clock first cycles report last)
    (ended : stageAt transport clock (.running first {} {}) cycles = .ended report last) :
    Accounts transport clock first (cycles + 1) report last where
  config := accounts.config
  paused := accounts.paused
  later := accounts.later
  counted := by
    rw [collected_of_ended ended]
    exact accounts.counted
  rows := by
    rw [collected_of_ended ended, collected_of_ended ended]
    exact accounts.rows
  unreadable := by
    rw [collected_of_ended ended]
    exact accounts.unreadable
  keeps := by
    rw [collected_of_ended ended]
    exact accounts.keeps

/-- What follows a cycle whose calls succeed. -/
theorem proceed_of_settles {now : Int} (unpaused : emitter.paused = false)
    (settles : emitter.Settles transport now next) (drained delivered : CycleReport) :
    (Stage.running emitter drained delivered).proceed transport now =
      if Emitter.goesOn next.config (emitter.reportAt transport now) then
        .running next (drained.add (emitter.reportAt transport now)) delivered
      else
        .close delivered (drained.add (emitter.reportAt transport now)) next := by
  rw [Stage.proceed, if_neg (by simp [unpaused]), settles.cycled]

/-- The account of every stage. The induction is on the cycles. -/
theorem accounted (unpaused : first.paused = false) (positive : 0 < first.config.emitRange)
    (succeed : CallsSucceed transport clock (.running first {} {})) (cycles : Nat) :
    (stageAt transport clock (.running first {} {}) cycles).Accounted transport clock first
      cycles := by
  induction cycles with
  | zero => exact ⟨accounts_start transport clock first, rfl, rfl⟩
  | succ cycles inductionHypothesis =>
      rw [stageAt]
      cases stage : stageAt transport clock (.running first {} {}) cycles with
      | ended report last =>
          rw [stage] at inductionHypothesis
          exact ⟨inductionHypothesis.1.of_ended stage, inductionHypothesis.2⟩
      | running emitter drained delivered =>
          rw [stage] at inductionHypothesis
          obtain ⟨accounts, drainedNone, deliveredNone⟩ := inductionHypothesis
          obtain ⟨next, settles⟩ :=
            Emitter.settles_of_callsSucceed (succeed cycles emitter drained delivered stage)
          have keptNone : (delivered.add drained).retained = 0 := by
            simp only [CycleReport.add]
            omega
          have after := accounts.step keptNone stage settles
          rw [CycleReport.add_assoc] at after
          rw [proceed_of_settles (accounts.paused.trans unpaused) settles]
          split
          · next onward =>
            simp only [Emitter.goesOn, Bool.and_eq_true, decide_eq_true_eq] at onward
            refine ⟨after, ?_, deliveredNone⟩
            simp only [CycleReport.add]
            omega
          · rcases Stage.close_cases delivered
                (drained.add (emitter.reportAt transport (clock cycles))) next with
              ⟨stops, closes⟩ | ⟨_, keptNow, closes⟩ <;> rw [closes]
            · refine ⟨after, ?_⟩
              rcases stops with nothing | kept
              · refine .inr (settles.empty_of_no_page (by rw [accounts.config]; exact positive) ?_)
                simp only [CycleReport.add] at nothing
                omega
              · left
                simp only [CycleReport.add] at kept ⊢
                omega
            · refine ⟨after, rfl, ?_⟩
              simp only [CycleReport.add] at keptNow ⊢
              omega

/-! ### The cycles come to an end -/

/-- The measure of a flush that is running: its rows, and whether its drain has pulled any. -/
def pending (emitter : Emitter) (drained : CycleReport) : Nat :=
  2 * emitter.queue.backend.contents.length + if 0 < drained.attempted then 1 else 0

/-- After a cycle there is less to do, or the flush is over. -/
theorem proceeds_to_less (returns : ∀ index request, transport.answer index request ≠ .panicked)
    {now : Int} (unpaused : emitter.paused = false)
    (settles : emitter.Settles transport now next) (drained delivered : CycleReport) :
    (∃ report last,
        (Stage.running emitter drained delivered).proceed transport now = .ended report last) ∨
      ∃ drainedNext deliveredNext,
        (Stage.running emitter drained delivered).proceed transport now =
            .running next drainedNext deliveredNext ∧
          pending next drainedNext < pending emitter drained := by
  have fewer := settles.length_lt returns
  have noMore := settles.length_le
  rw [proceed_of_settles unpaused settles]
  split
  · next onward =>
    simp only [Emitter.goesOn, Bool.and_eq_true, decide_eq_true_eq] at onward
    have less := fewer onward.1.1 onward.2
    refine .inr ⟨_, _, rfl, ?_⟩
    simp only [pending]
    split <;> omega
  · rcases Stage.close_cases delivered (drained.add (emitter.reportAt transport now)) next with
      ⟨_, closes⟩ | ⟨pulledSome, keptNone, closes⟩
    · exact .inl ⟨_, _, closes⟩
    · refine .inr ⟨_, _, closes, ?_⟩
      simp only [CycleReport.add] at pulledSome keptNone
      have none : ¬0 < ({} : CycleReport).attempted := Nat.lt_irrefl 0
      rw [pending, pending, if_neg none]
      by_cases pulled : 0 < (emitter.reportAt transport now).attempted
      · have less := fewer pulled (by omega)
        omega
      · rw [if_pos (by omega)]
        omega

/-- A flush that is running comes to its end. The induction is on the measure. -/
theorem ends_of_running (returns : ∀ index request, transport.answer index request ≠ .panicked)
    (unpaused : first.paused = false) (positive : 0 < first.config.emitRange)
    (succeed : CallsSucceed transport clock (.running first {} {}))
    (running : stageAt transport clock (.running first {} {}) cycles =
      .running emitter drained delivered) :
    ∃ finished report last,
      stageAt transport clock (.running first {} {}) finished = .ended report last := by
  induction measure : pending emitter drained using Nat.strongRecOn
    generalizing cycles emitter drained delivered with
  | ind size inductionHypothesis =>
      have account := accounted unpaused positive succeed cycles
      rw [running] at account
      obtain ⟨next, settles⟩ :=
        Emitter.settles_of_callsSucceed (succeed cycles emitter drained delivered running)
      rcases proceeds_to_less returns (account.1.paused.trans unpaused) settles drained delivered
        with ⟨report, last, ended⟩ | ⟨drainedNext, deliveredNext, onward, less⟩
      · exact ⟨cycles + 1, report, last, by rw [stageAt, running, ended]⟩
      · rw [measure] at less
        have runsOn : stageAt transport clock (.running first {} {}) (cycles + 1) =
            .running next drainedNext deliveredNext := by
          rw [stageAt, running, onward]
        exact inductionHypothesis _ less runsOn rfl

end Stages

/-! ### The loops of a flush -/

section Loops

variable {transport : Transport} {now : Int} {start : Stage}

/-- With a single instant it does not matter from where cycles are counted. -/
theorem stageAt_add (first second : Nat) :
    stageAt transport (fun _ => now) start (first + second) =
      stageAt transport (fun _ => now) (stageAt transport (fun _ => now) start first) second := by
  induction second with
  | zero => rfl
  | succ second inductionHypothesis => rw [Nat.add_succ, stageAt, inductionHypothesis, stageAt]

theorem CallsSucceed.later (succeed : CallsSucceed transport (fun _ => now) start)
    (cycles : Nat) :
    CallsSucceed transport (fun _ => now) (stageAt transport (fun _ => now) start cycles) := by
  intro cycle emitter drained delivered running
  rw [← stageAt_add] at running
  exact succeed _ emitter drained delivered running

/-- A drain as the stages see it: its counts are added to those so far. -/
structure Drained (transport : Transport) (now : Int) (emitter : Emitter)
    (drained delivered report : CycleReport) (next : Emitter) : Prop where
  closes : ∃ cycles, stageAt transport (fun _ => now) (.running emitter drained delivered) cycles =
    .close delivered (drained.add report) next
  paused : next.paused = emitter.paused
  fewer : next.queue.backend.contents.length ≤ emitter.queue.backend.contents.length
  progress : 0 < report.attempted → report.retained = 0 →
    next.queue.backend.contents.length < emitter.queue.backend.contents.length

/-- By induction on the bound of cycles, which stays above the number of rows. -/
theorem drained_of_callsSucceed
    (returns : ∀ index request, transport.answer index request ≠ .panicked)
    {emitter : Emitter} {drained delivered : CycleReport} (unpaused : emitter.paused = false)
    (succeed : CallsSucceed transport (fun _ => now) (.running emitter drained delivered))
    {cycles : Nat} (enough : emitter.queue.backend.contents.length < cycles) :
    ∃ report next, Emitter.drainWithin transport (.still now) cycles emitter =
        some (report, next) ∧
      Drained transport now emitter drained delivered report next := by
  induction cycles generalizing emitter drained with
  | zero => exact absurd enough (Nat.not_lt_zero _)
  | succ cycles inductionHypothesis =>
      obtain ⟨next, settles⟩ :=
        Emitter.settles_of_callsSucceed (succeed 0 emitter drained delivered rfl)
      have proceeds := proceed_of_settles unpaused settles drained delivered
      have cycled : emitter.cycle transport (Time.Clock.still now).now {} =
          (some (emitter.reportAt transport now), next) := settles.cycled
      rw [Emitter.drainWithin_of_cycle unpaused cycled, Time.Clock.later_still]
      split
      · next onward =>
        rw [if_pos onward] at proceeds
        simp only [Emitter.goesOn, Bool.and_eq_true, decide_eq_true_eq] at onward
        have less := settles.length_lt returns onward.1.1 onward.2
        have succeedNext := succeed.later 1
        rw [stageAt, stageAt, proceeds] at succeedNext
        obtain ⟨report, last, ends, ⟨⟨rest, closes⟩, paused, fewer, _⟩⟩ :=
          inductionHypothesis (settles.paused.trans unpaused) succeedNext (by omega)
        refine ⟨_, last, by rw [ends]; rfl, ⟨1 + rest, ?_⟩, paused.trans settles.paused,
          by omega, fun _ _ => by omega⟩
        rw [stageAt_add, stageAt, stageAt, proceeds, closes, CycleReport.add_assoc]
      · next stops =>
        rw [if_neg stops] at proceeds
        exact ⟨_, next, rfl, ⟨1, proceeds⟩, settles.paused, settles.length_le,
          settles.length_lt returns⟩

/-- Both loops together. The induction is on the bound of drains, which stays above the number
of rows. -/
theorem stageAt_of_drainWithin
    (returns : ∀ index request, transport.answer index request ≠ .panicked)
    {emitter : Emitter} {delivered : CycleReport} (unpaused : emitter.paused = false)
    (succeed : CallsSucceed transport (fun _ => now) (.running emitter {} delivered))
    (countable : emitter.queue.backend.contents.length < Emitter.endlessCycles)
    {most : Nat} (enough : emitter.queue.backend.contents.length < most) :
    ∃ cycles, stageAt transport (fun _ => now) (.running emitter {} delivered) cycles =
      .ended (delivered.add (drainWithin transport now most emitter).1)
        (drainWithin transport now most emitter).2 := by
  induction most generalizing emitter delivered with
  | zero => exact absurd enough (Nat.not_lt_zero _)
  | succ most inductionHypothesis =>
      obtain ⟨report, next, drains, ⟨⟨cycles, closes⟩, paused, fewer, progress⟩⟩ :=
        drained_of_callsSucceed returns unpaused succeed (Nat.lt_succ_self _)
      rw [CycleReport.empty_add, Stage.close] at closes
      have drain : emitter.drain transport now = (report, next) :=
        Emitter.drain_eq_of_drainWithin countable drains
      rw [drainWithin, drain]
      simp only
      split
      · next stops =>
        rw [if_pos stops] at closes
        exact ⟨cycles, closes⟩
      · next onward =>
        rw [if_neg onward] at closes
        rw [Bool.or_eq_true, decide_eq_true_eq, decide_eq_true_eq, not_or] at onward
        have less := progress (by omega) (by omega)
        have succeedNext := succeed.later cycles
        rw [closes] at succeedNext
        obtain ⟨rest, ended⟩ := inductionHypothesis (paused.trans unpaused) succeedNext
          (by omega) (by omega)
        refine ⟨cycles + rest, ?_⟩
        rw [stageAt_add, closes, ended, CycleReport.add_assoc]

theorem stageAt_ended {clock : Nat → Int} {cycles : Nat} {report : CycleReport} {last : Emitter}
    (ended : stageAt transport clock start cycles = .ended report last) {more : Nat}
    (later : cycles ≤ more) : stageAt transport clock start more = .ended report last := by
  induction more, later using Nat.le_induction with
  | base => exact ended
  | succ more later inductionHypothesis => rw [stageAt, inductionHypothesis]; rfl

end Loops

/-- A flush whose calls on the queue succeed comes to an end, whatever the instants of its
cycles are, if its transport answers every request. At its end rows are kept, or the queue is
empty. Every row that it started with was delivered, given up, evicted, taken as unreadable,
or is still there, and a row that an answer keeps is still there. If all cycles have one
instant, this is what the flush reports. -/
theorem ends_and_adds_up (flush : Flush) (queue : EventQueue) (transport : Transport)
    (clock : Nat → Int) (present : queue.backend.Continues queue.backend)
    (returns : ∀ index request, transport.answer index request ≠ .panicked)
    (succeed : CallsSucceed transport clock (.running (flush.emitter queue) {} {})) :
    let start := Stage.running (flush.emitter queue) {} {}
    ∃ cycles report last, stageAt transport clock start cycles = .ended report last ∧
      (0 < report.retained ∨ last.queue.backend.contents = []) ∧
      queue.backend.contents.length = report.sent + report.dropped +
        (collected transport clock start Emitter.evictedAt cycles).length +
        (collected transport clock start Emitter.unreadableAt cycles).length +
        last.queue.backend.contents.length ∧
      (∀ row ∈ collected transport clock start Emitter.unreadableAt cycles,
        row.event? = none) ∧
      (let rules := (flush.emitter queue).config.retry
       let answers := collected transport clock start
        (fun emitter now => emitter.answersAt transport now) cycles
       report.sent = carriedRows (answers.filter fun answered => answered.2.Delivers) ∧
       report.dropped = carriedRows (answers.filter fun answered =>
          rules.GivesUp answered.1 answered.2) ∧
       report.retained = carriedRows (answers.filter fun answered =>
          rules.Keeps answered.1 answered.2) ∧
       ∀ answered ∈ answers, rules.Keeps answered.1 answered.2 →
          ∀ id ∈ answered.1.ids, id ∈ last.queue.backend.contents.map StoredRow.id) ∧
      ∀ now, (clock = fun _ => now) →
        queue.backend.contents.length < Emitter.endlessCycles →
        flush.run queue transport now =
          .ok (⟨report, last.queue.backend.contents.length⟩, last) := by
  intro start
  have positive : 0 < (flush.emitter queue).config.emitRange := Nat.le_max_right _ _
  have starts : stageAt transport clock start 0 = start := rfl
  obtain ⟨cycles, report, last, ended⟩ := ends_of_running returns rfl positive succeed starts
  have account := accounted rfl positive succeed cycles
  rw [ended] at account
  obtain ⟨accounts, empties⟩ := account
  obtain ⟨attempted, counted⟩ := accounts.counted
  refine ⟨cycles, report, last, ended, empties, accounts.rows, accounts.unreadable,
    ⟨?_, ?_, ?_, accounts.keeps⟩, ?_⟩
  · rw [counted, CycleReport.counting]
    exact Nat.zero_add _
  · rw [counted, CycleReport.counting]
    exact Nat.zero_add _
  · rw [counted, CycleReport.counting]
    exact Nat.zero_add _
  · rintro now rfl countable
    have before : queue.backend.count = .ok queue.backend.contents.length :=
      QueueBackend.count_total present
    have after : last.queue.backend.count = .ok last.queue.backend.contents.length :=
      QueueBackend.count_total (accounts.later.follows.present present)
    have enough : (flush.emitter queue).queue.backend.contents.length <
        queue.backend.contents.length + 2 := Nat.lt_add_of_pos_right (by decide)
    obtain ⟨finished, same⟩ := stageAt_of_drainWithin returns rfl succeed countable enough
    rw [CycleReport.empty_add] at same
    have results : Stage.ended report last = _ :=
      (stageAt_ended ended (Nat.le_max_left cycles finished)).symm.trans
        (stageAt_ended same (Nat.le_max_right cycles finished))
    obtain ⟨sameReport, sameLast⟩ := Stage.ended.inj results
    have drains : drainWithin transport now (queue.backend.contents.length + 2)
        (flush.emitter queue) = (report, last) := Prod.ext sameReport.symm sameLast.symm
    rw [emitter] at drains
    rw [run, before]
    simp only [Except.mapError, bind, Except.bind, drains, after]
    rfl

/-! ### Queues that never fail -/

/-- No call of a flush fails on such a queue, whatever its transport answers. -/
theorem callsSucceed_of_answering {first : Emitter} (answering : first.queue.Answering)
    (unpaused : first.paused = false) (transport : Transport) (clock : Nat → Int) :
    CallsSucceed transport clock (.running first {} {}) := by
  suffices answers : ∀ cycle emitter drained delivered,
      stageAt transport clock (.running first {} {}) cycle = .running emitter drained delivered →
        emitter.queue.Answering ∧ emitter.paused = false from
    fun cycle emitter drained delivered running =>
      Emitter.callsSucceed_of_answering (answers cycle emitter drained delivered running).1
  intro cycle
  induction cycle with
  | zero =>
      intro emitter drained delivered running
      obtain ⟨rfl, _, _⟩ := Stage.running.inj running
      exact ⟨answering, unpaused⟩
  | succ cycle inductionHypothesis =>
      intro emitter drained delivered running
      rw [stageAt] at running
      cases stage : stageAt transport clock (.running first {} {}) cycle with
      | ended report last =>
          rw [stage] at running
          cases running
      | running before drainedBefore deliveredBefore =>
          obtain ⟨answeringBefore, unpausedBefore⟩ := inductionHypothesis _ _ _ stage
          have succeed : before.CallsSucceed transport (clock cycle) {} :=
            Emitter.callsSucceed_of_answering answeringBefore
          obtain ⟨next, settles⟩ := Emitter.settles_of_callsSucceed succeed
          rw [stage, proceed_of_settles unpausedBefore settles] at running
          have same : emitter = next := by
            split at running
            · exact (Stage.running.inj running).1.symm
            · rcases Stage.close_cases deliveredBefore
                  (drainedBefore.add (before.reportAt transport (clock cycle))) next with
                ⟨_, closes⟩ | ⟨_, _, closes⟩ <;> rw [closes] at running
              · cases running
              · exact (Stage.running.inj running).1.symm
          rw [same]
          exact ⟨answeringBefore.later settles.later settles.length_le,
            settles.paused.trans unpausedBefore⟩

/-- A table of four rows, of which the first is evicted and the second cannot be read. -/
theorem four_rows_are_flushed :
    let flush : Flush := ⟨{ storage := { maxRows := some 3 } }, ⟨"http://c"⟩⟩
    let text := Payload.empty.text
    let rows : Array TableRow := #[⟨1, text, 0⟩, ⟨2, "?", 0⟩, ⟨5, text, 0⟩, ⟨6, text, 0⟩]
    let queue : EventQueue := ⟨.table ⟨some rows, 6, by decide⟩, fun _ _ => false, 0⟩
    let transport : Transport := ⟨.post, fun index request =>
      .returned (request.result (if index = 0 then some 200 else some 503))⟩
    let start := Stage.running (flush.emitter queue) {} {}
    (flush.emitter queue).evictedAt 0 = [⟨1, .text text, 0⟩] ∧
      (flush.emitter queue).unreadableAt 0 = [⟨2, .text "?", 0⟩] ∧
      CallsSucceed transport (fun _ => 0) start ∧
      ∃ cycles report last,
        flush.run queue transport 0 =
          .ok (⟨report, last.queue.backend.contents.length⟩, last) ∧
        (0 < report.retained ∨ last.queue.backend.contents = []) ∧
        4 = report.sent + report.dropped +
          (collected transport (fun _ => 0) start Emitter.evictedAt cycles).length +
          (collected transport (fun _ => 0) start Emitter.unreadableAt cycles).length +
          last.queue.backend.contents.length := by
  intro flush text rows queue transport start
  have answering : queue.Answering := ⟨fun _ _ => rfl, rfl, by decide⟩
  have succeed : CallsSucceed transport (fun _ => 0) start :=
    callsSucceed_of_answering answering rfl transport _
  obtain ⟨cycles, report, last, _, empties, balance, _, _, runs⟩ :=
    flush.ends_and_adds_up queue transport (fun _ => 0) answering.present (fun _ _ => nofun)
      succeed
  exact ⟨by decide +kernel, by decide +kernel, succeed, cycles, report, last,
    runs 0 rfl (by decide), empties, balance⟩

end Flush

end Telemetry

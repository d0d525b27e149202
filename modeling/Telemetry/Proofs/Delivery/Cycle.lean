import Telemetry.Proofs.Delivery.Phases

/-!
Contract: which rows leave the queue in one drain cycle, and what the cycle reports.

Owns:
- which answers are final for a request, said from the status, the marks and the
  retry rules alone;
- the counts of a report as counts of rows by answer;
- the rows after a cycle whose calls on the queue succeed.

Does not own: what a cycle does when a call fails, and the cycles after it.
-/

namespace Telemetry

/-! ### Final answers -/

/-- The response is a success. -/
def Answer.Delivers : Answer → Prop
  | .panicked => False
  | .returned result => ∃ status ∈ result.status, 200 ≤ status ∧ status ≤ 299

/-- Nothing is left to do for a request that is answered so. -/
def RetryRules.Final (rules : RetryRules) (request : Request) : Answer → Prop
  | .panicked => False
  | .returned result =>
    (∃ status ∈ result.status, 200 ≤ status ∧ status ≤ 299) ∨
      request.oversize = true ∨ result.oversize = true ∨ rules.enabled = false ∨
      ∃ status ∈ result.status,
        rules.overrides.get? status = some false ∨
          rules.overrides.get? status = none ∧ status ∈ [400, 401, 403, 410, 422]

/-- The request is not sent again though it was not delivered. -/
def RetryRules.GivesUp (rules : RetryRules) (request : Request) (answer : Answer) : Prop :=
  rules.Final request answer ∧ ¬answer.Delivers

/-- The sending did not break off, and the request is to be sent again. -/
def RetryRules.Keeps (rules : RetryRules) (request : Request) (answer : Answer) : Prop :=
  answer ≠ .panicked ∧ ¬rules.Final request answer

instance (answer : Answer) : Decidable answer.Delivers := by
  unfold Answer.Delivers
  split <;> infer_instance

instance (rules : RetryRules) (request : Request) (answer : Answer) :
    Decidable (rules.Final request answer) := by
  unfold RetryRules.Final
  split <;> infer_instance

instance (rules : RetryRules) (request : Request) (answer : Answer) :
    Decidable (rules.GivesUp request answer) := by
  unfold RetryRules.GivesUp
  infer_instance

instance (rules : RetryRules) (request : Request) (answer : Answer) :
    Decidable (rules.Keeps request answer) := by
  unfold RetryRules.Keeps
  infer_instance

theorem Answer.Delivers.final
    {rules : RetryRules} {request : Request} {answer : Answer} (delivers : answer.Delivers) :
    rules.Final request answer := by
  cases answer with
  | panicked => exact delivers
  | returned result => exact .inl delivers

@[simp] theorem Answer.not_delivers_panicked : ¬Answer.panicked.Delivers := id

@[simp] theorem RetryRules.not_final_panicked (rules : RetryRules) (request : Request) :
    ¬rules.Final request .panicked := id

@[simp] theorem RetryRules.not_givesUp_panicked (rules : RetryRules) (request : Request) :
    ¬rules.GivesUp request .panicked := fun givesUp => givesUp.1

@[simp] theorem RetryRules.not_keeps_panicked (rules : RetryRules) (request : Request) :
    ¬rules.Keeps request .panicked := fun keeps => keeps.1 rfl

/-- A request whose sending did not break off is delivered, given up or kept. -/
theorem RetryRules.answer_cases
    (rules : RetryRules) (request : Request) {answer : Answer} (returned : answer ≠ .panicked) :
    answer.Delivers ∧ rules.Final request answer ∧
        ¬rules.GivesUp request answer ∧ ¬rules.Keeps request answer ∨
      ¬answer.Delivers ∧ rules.Final request answer ∧
        rules.GivesUp request answer ∧ ¬rules.Keeps request answer ∨
      ¬answer.Delivers ∧ ¬rules.Final request answer ∧
        ¬rules.GivesUp request answer ∧ rules.Keeps request answer := by
  by_cases delivers : answer.Delivers
  · have final : rules.Final request answer := delivers.final
    exact .inl ⟨delivers, final, fun gives => gives.2 delivers, fun keeps => keeps.2 final⟩
  · by_cases final : rules.Final request answer
    · exact .inr (.inl ⟨delivers, final, ⟨final, delivers⟩, fun keeps => keeps.2 final⟩)
    · exact .inr (.inr ⟨delivers, final, fun gives => final gives.1, returned, final⟩)

theorem RequestResult.isSuccessful_iff (result : RequestResult) :
    result.isSuccessful = true ↔ ∃ status ∈ result.status, 200 ≤ status ∧ status ≤ 299 := by
  unfold isSuccessful
  cases result.status <;> simp

theorem RetryRules.retries_eq_false_iff (rules : RetryRules) (status? : Option Nat) :
    rules.retries status? = false ↔
      rules.enabled = false ∨
        ∃ status ∈ status?,
          rules.overrides.get? status = some false ∨
            rules.overrides.get? status = none ∧ status ∈ [400, 401, 403, 410, 422] := by
  unfold retries
  cases status? with
  | none => simp
  | some status =>
      simp only [Bool.and_eq_false_iff, Option.mem_def, Option.some.injEq, exists_eq_left']
      refine or_congr_right ?_
      cases rules.overrides.get? status with
      | none =>
          simp only [Option.getD_none, Bool.not_eq_false', List.contains_iff_mem, finalStatuses,
            reduceCtorEq, false_or, true_and]
      | some retried => simp

theorem RetryRules.removesRows_disposition (rules : RetryRules) (result : RequestResult) :
    (rules.disposition result).removesRows =
      (result.isSuccessful || (result.oversize || !rules.retries result.status)) := by
  unfold disposition
  split
  · next success => rw [success]; rfl
  · next failure =>
    rw [Bool.not_eq_true] at failure
    rw [failure, Bool.false_or]
    split
    · next final => rw [final]; rfl
    · next retained =>
      rw [Bool.not_eq_true] at retained
      rw [retained]
      rfl

section Dispositions

variable {rules : RetryRules} {request : Request} {answer : Answer} {result : RequestResult}

theorem isSuccessful_of_result? (isResult : answer.result? request = some result) :
    result.isSuccessful = true ↔ answer.Delivers := by
  cases answer with
  | panicked => cases isResult
  | returned returned =>
      obtain rfl := Option.some.inj isResult
      exact RequestResult.isSuccessful_iff _

theorem ids_of_result? (isResult : answer.result? request = some result) :
    result.ids = request.ids := by
  cases answer with
  | panicked => cases isResult
  | returned returned => rw [← Option.some.inj isResult]

theorem removesRows_of_result? (isResult : answer.result? request = some result) :
    (rules.disposition result).removesRows = true ↔ rules.Final request answer := by
  cases answer with
  | panicked => cases isResult
  | returned returned =>
      obtain rfl := Option.some.inj isResult
      rw [RetryRules.removesRows_disposition, Bool.or_eq_true, RequestResult.isSuccessful_iff,
        Bool.or_eq_true, Bool.or_eq_true, Bool.not_eq_true', RetryRules.retries_eq_false_iff,
        or_assoc, or_left_comm (a := returned.oversize = true)]
      rfl

end Dispositions

/-! ### Counts of rows -/

/-- How many rows requests carry. -/
def carriedRows (answers : List (Request × Answer)) : Nat :=
  (answers.flatMap fun answered => answered.1.ids).length

@[simp] theorem carriedRows_nil : carriedRows [] = 0 := rfl

@[simp] theorem carriedRows_cons (answered : Request × Answer) (rest : List (Request × Answer)) :
    carriedRows (answered :: rest) = answered.1.ids.length + carriedRows rest := by
  simp [carriedRows]

theorem carriedRows_eq_zero {answers : List (Request × Answer)} (none : carriedRows answers = 0) :
    ∀ answered ∈ answers, answered.1.ids = [] := by
  intro answered member
  rw [carriedRows, List.length_eq_zero_iff] at none
  exact List.flatMap_eq_nil_iff.mp none answered member

/-- A report with the rows of answers counted in. -/
def CycleReport.counting
    (rules : RetryRules) (report : CycleReport) (answers : List (Request × Answer)) :
    CycleReport where
  attempted := report.attempted
  sent := report.sent + carriedRows (answers.filter fun answered => answered.2.Delivers)
  dropped := report.dropped + carriedRows (answers.filter fun answered =>
    rules.GivesUp answered.1 answered.2)
  retained := report.retained + carriedRows (answers.filter fun answered =>
    rules.Keeps answered.1 answered.2)

theorem CycleReport.counting_nil (rules : RetryRules) (report : CycleReport) :
    report.counting rules [] = report := by
  simp [counting]

theorem RetryRules.disposition_of_result?
    {rules : RetryRules} {request : Request} {answer : Answer} {result : RequestResult}
    (isResult : answer.result? request = some result) :
    rules.disposition result =
      if answer.Delivers then .sent
      else if rules.Final request answer then .dropped
      else .retained := by
  have success : result.isSuccessful = true ↔ answer.Delivers :=
    isSuccessful_of_result? isResult
  by_cases delivers : answer.Delivers
  · rw [if_pos delivers, disposition, if_pos (success.mpr delivers)]
  · have failure : result.isSuccessful = false := by
      rw [← Bool.not_eq_true]
      exact mt success.mp delivers
    have removes : (result.oversize || !rules.retries result.status) = true ↔
        rules.Final request answer := by
      rw [← removesRows_of_result? isResult, removesRows_disposition, failure, Bool.false_or]
    rw [if_neg delivers, disposition, if_neg (mt success.mp delivers)]
    by_cases final : rules.Final request answer
    · rw [if_pos final, if_pos (removes.mpr final)]
    · rw [if_neg final, if_neg (mt removes.mp final)]

/-- One answer counts the rows of its request once, unless the sending broke off. -/
theorem CycleReport.counting_cons
    (rules : RetryRules) (report : CycleReport) (answered : Request × Answer)
    (rest : List (Request × Answer)) :
    report.counting rules (answered :: rest) =
      ((answered.2.result? answered.1).elim report (report.count rules)).counting rules rest := by
  obtain ⟨request, answer⟩ := answered
  cases isResult : answer.result? request with
  | none =>
      have broken : answer = .panicked := by
        cases answer with
        | panicked => rfl
        | returned result => cases isResult
      subst broken
      simp [counting]
  | some result =>
      have returned : answer ≠ .panicked := by
        rintro rfl
        cases isResult
      rw [Option.elim_some, count, RetryRules.disposition_of_result? isResult,
        ids_of_result? isResult]
      rcases RetryRules.answer_cases rules request returned with
        ⟨delivers, final, gives, keeps⟩ | ⟨delivers, final, gives, keeps⟩ |
          ⟨delivers, final, gives, keeps⟩ <;>
        simp [counting, delivers, final, gives, keeps, Nat.add_assoc]

theorem tally_answers
    (rules : RetryRules) (attempted : Nat) (answers : List (Request × Answer)) :
    Emitter.tally rules attempted
        (answers.filterMap fun answered => answered.2.result? answered.1) =
      CycleReport.counting rules { attempted := attempted } answers := by
  rw [Emitter.tally]
  generalize ({ attempted := attempted } : CycleReport) = report
  induction answers generalizing report with
  | nil => exact (CycleReport.counting_nil rules report).symm
  | cons answered rest inductionHypothesis =>
      rw [CycleReport.counting_cons, ← inductionHypothesis, List.filterMap_cons]
      cases answered.2.result? answered.1 <;> rfl

/-- Every row of a page is delivered, given up, kept, or in a request whose sending
broke off. -/
theorem carriedRows_partition (rules : RetryRules) (answers : List (Request × Answer)) :
    carriedRows (answers.filter fun answered => answered.2.Delivers) +
        carriedRows (answers.filter fun answered => rules.GivesUp answered.1 answered.2) +
        carriedRows (answers.filter fun answered => rules.Keeps answered.1 answered.2) +
        carriedRows (answers.filter fun answered => answered.2 = .panicked) =
      carriedRows answers := by
  induction answers with
  | nil => rfl
  | cons answered rest inductionHypothesis =>
      obtain ⟨request, answer⟩ := answered
      simp only [List.filter_cons, carriedRows_cons]
      by_cases broken : answer = .panicked
      · subst broken
        simp
        omega
      · rcases RetryRules.answer_cases rules request broken with
          ⟨delivers, _, gives, keeps⟩ | ⟨delivers, _, gives, keeps⟩ | ⟨delivers, _, gives, keeps⟩ <;>
          simp [delivers, gives, keeps, broken] <;> omega

/-! ### The rows after a cycle -/

/-- A request that carries the row has a final answer. -/
def RetryRules.Removes
    (rules : RetryRules) (answers : List (Request × Answer)) (id : RowId) : Prop :=
  ∃ answered ∈ answers, id ∈ answered.1.ids ∧ rules.Final answered.1 answered.2

instance (rules : RetryRules) (answers : List (Request × Answer)) :
    DecidablePred (rules.Removes answers) := fun id => by
  unfold RetryRules.Removes
  infer_instance

theorem mem_settledIds_answers
    {rules : RetryRules} {answers : List (Request × Answer)} {id : RowId} :
    id ∈ Emitter.settledIds rules
        (answers.filterMap fun answered => answered.2.result? answered.1) ↔
      rules.Removes answers id := by
  rw [Emitter.mem_settledIds]
  constructor
  · rintro ⟨result, member, removes, inResult⟩
    obtain ⟨⟨request, answer⟩, inAnswers, isResult⟩ := List.mem_filterMap.mp member
    refine ⟨(request, answer), inAnswers, ?_, (removesRows_of_result? isResult).mp removes⟩
    rw [← ids_of_result? isResult]
    exact inResult
  · rintro ⟨⟨request, answer⟩, inAnswers, inRequest, final⟩
    obtain ⟨result, isResult⟩ : ∃ result, answer.result? request = some result := by
      cases answer with
      | panicked => exact absurd final (rules.not_final_panicked request)
      | returned result => exact ⟨_, rfl⟩
    refine ⟨result, List.mem_filterMap.mpr ⟨_, inAnswers, isResult⟩,
      (removesRows_of_result? isResult).mpr final, ?_⟩
    rw [ids_of_result? isResult]
    exact inRequest

namespace Emitter

/-- Every call that a cycle makes on the queue succeeds: eviction and reading, the
inserts of trackers meanwhile, and the removal. -/
def CallsSucceed
    (emitter : Emitter) (transport : Transport) (now : Int) (arrivals : Arrivals) : Prop :=
  ∃ page reading, emitter.readPage now = (some page, reading) ∧
    reading.queue.TakesAll arrivals.afterReading ∧
    ∃ sent sending,
      (reading.accept arrivals.afterReading).sendPage transport now page = (sent, sending) ∧
      sending.queue.TakesAll arrivals.afterSending ∧
      ((sending.accept arrivals.afterSending).removeRows
        (settledIds sending.config.retry sent.results)).1 = .ok ()

/-- A cycle that reads a page settles it, even if it is empty; only the bus learns
nothing of an empty page. -/
theorem cycle_eq_settle
    {emitter reading : Emitter} {now : Int} {page : List QueuedEvent}
    (transport : Transport) (arrivals : Arrivals)
    (read : emitter.readPage now = (some page, reading)) :
    ∃ sent sending, emitter.PageSent transport now arrivals reading sent sending ∧
      (reading.accept arrivals.afterReading).sendPage transport now page = (sent, sending) ∧
      (emitter.cycle transport now arrivals).1 =
        some ((sending.accept arrivals.afterSending).settle sent).1 ∧
      (emitter.cycle transport now arrivals).2.toOutbox =
        ((sending.accept arrivals.afterSending).settle sent).2.toOutbox := by
  refine ⟨_, _, pageSent_of_read transport arrivals read, rfl, ?_⟩
  cases page with
  | nil =>
      have noRequests : ∀ other : Emitter, other.requestsOf transport.method [] = [] := by
        intro other
        rw [requestsOf]
        cases transport.method <;> rfl
      simp only [cycle, read, sendPage, noRequests]
      exact ⟨rfl, rfl⟩
  | cons event rest =>
      simp only [cycle, read, and_self]

/-- Only rows of the page are removed, so rows that were inserted meanwhile stay. -/
theorem not_removes_of_fresh
    {emitter : Emitter} {transport : Transport} {now : Int} {id : RowId}
    (fresh : emitter.queue.backend.lastId < id) :
    ¬emitter.config.retry.Removes (emitter.answersAt transport now) id := by
  rintro ⟨answered, inAnswers, inRequest, _⟩
  have inPage := (emitter.answersAt_ids_perm transport now).subset
    (List.mem_flatMap.mpr ⟨answered, inAnswers, inRequest⟩)
  exact absurd ((emitter.pageAt_ids_numbered now).bounded id inPage) (Int.not_le.mpr fresh)

theorem contents_of_takesAll
    {emitter reading sending : Emitter} {transport : Transport} {now : Int}
    {arrivals : Arrivals} {sent : SentPage}
    (pageSent : emitter.PageSent transport now arrivals reading sent sending)
    (takesFirst : reading.queue.TakesAll arrivals.afterReading)
    (takesSecond : sending.queue.TakesAll arrivals.afterSending) :
    (sending.accept arrivals.afterSending).queue.backend.contents =
      emitter.rowsAt now ++
        insertedRows emitter.queue.backend.held emitter.queue.backend.lastId
          (arrivals.afterReading ++ arrivals.afterSending) := by
  obtain ⟨firstRows, firstLast, firstHeld⟩ := reading.queue.insertAll_of_takesAll _ takesFirst
  obtain ⟨secondRows, _, _⟩ := sending.queue.insertAll_of_takesAll _ takesSecond
  rw [pageSent.queue, firstRows, firstLast, firstHeld, pageSent.rows.contents,
    pageSent.rows.held, pageSent.rows.lastId] at secondRows
  rw [insertedRows_append, ← List.append_assoc]
  exact (congrArg (fun queue => (EventQueue.insertAll queue _).backend.contents)
    pageSent.queue).trans secondRows

/-- The report of a page that was sent counts its rows by their answers. -/
theorem settle_report
    {emitter reading sending : Emitter} {transport : Transport} {now : Int}
    {arrivals : Arrivals} {sent : SentPage}
    (pageSent : emitter.PageSent transport now arrivals reading sent sending) :
    ((sending.accept arrivals.afterSending).settle sent).1 =
      CycleReport.counting emitter.config.retry { attempted := (emitter.pageAt now).length }
        (emitter.answersAt transport now) := by
  rw [settle, pageSent.attempted, pageSent.results, ← tally_answers]
  exact congrArg (fun config : DeliveryConfig => tally config.retry _ _) pageSent.config

/-- The rows that settling removes are those whose request has a final answer. -/
theorem mem_settledIds_of_pageSent
    {emitter reading sending : Emitter} {transport : Transport} {now : Int}
    {arrivals : Arrivals} {sent : SentPage}
    (pageSent : emitter.PageSent transport now arrivals reading sent sending) (id : RowId) :
    id ∈ settledIds (sending.accept arrivals.afterSending).config.retry sent.results ↔
      emitter.config.retry.Removes (emitter.answersAt transport now) id := by
  rw [pageSent.results, ← mem_settledIds_answers]
  exact Iff.of_eq (congrArg (fun config : DeliveryConfig =>
    id ∈ settledIds config.retry _) pageSent.config)

/-- Exactly the rows whose request has a final answer leave the queue, apart from
those that eviction and reading take. Rows that were inserted meanwhile are at its
end, and the report counts the rows of the page by what became of them. -/
theorem cycle_removes_final_rows
    (emitter : Emitter) (transport : Transport) (now : Int) (arrivals : Arrivals)
    (succeed : emitter.CallsSucceed transport now arrivals) :
    let rules := emitter.config.retry
    let answers := emitter.answersAt transport now
    let sent := carriedRows (answers.filter fun answered => answered.2.Delivers)
    let dropped := carriedRows (answers.filter fun answered =>
      rules.GivesUp answered.1 answered.2)
    let retained := carriedRows (answers.filter fun answered =>
      rules.Keeps answered.1 answered.2)
    let broken := carriedRows (answers.filter fun answered => answered.2 = .panicked)
    (emitter.cycle transport now arrivals).2.queue.backend.contents =
        ((emitter.rowsAt now).filter fun row => ¬rules.Removes answers row.id) ++
          insertedRows emitter.queue.backend.held emitter.queue.backend.lastId
            (arrivals.afterReading ++ arrivals.afterSending) ∧
      (emitter.cycle transport now arrivals).1 =
        some { attempted := (emitter.pageAt now).length, sent, dropped, retained } ∧
      sent + dropped + retained + broken = (emitter.pageAt now).length := by
  intro rules answers delivered dropped retained broken
  obtain ⟨page, reading, read, takesFirst, sent, sending, sends, takesSecond, removes⟩ := succeed
  obtain ⟨sent', sending', pageSent, sends', reported, settled⟩ :=
    cycle_eq_settle transport arrivals read
  obtain ⟨rfl, rfl⟩ := Prod.mk.inj (sends.symm.trans sends')
  have carried : carriedRows answers = (emitter.pageAt now).length := by
    rw [← List.length_map (f := QueuedEvent.id)]
    exact (emitter.answersAt_ids_perm transport now).length_eq
  refine ⟨?_, ?_, by rw [← carried]; exact carriedRows_partition rules answers⟩
  · rcases settle_cases (sending.accept arrivals.afterSending) sent with
      ⟨⟨cause, failed⟩, _⟩ | ⟨_, _, left⟩
    · exact absurd (failed.symm.trans removes) nofun
    have arrived := contents_of_takesAll pageSent takesFirst takesSecond
    rw [settled, left.contents, arrived, List.filter_append]
    simp only [mem_settledIds_of_pageSent pageSent]
    congr 1
    refine List.filter_eq_self.mpr fun row member => ?_
    have fresh := insertedRows_fresh _ _ _ row member
    exact decide_eq_true (not_removes_of_fresh fresh)
  · rw [reported, settle_report pageSent]
    simp only [CycleReport.counting, Nat.zero_add]
    rfl

/-- An emitter whose queue in memory holds some empty payloads. -/
def ofEmptyRows (count emitRange : Nat) (refuses : QueueCall → Nat → Bool) : Emitter where
  toOutbox := .ofQueue
    { EventQueue.insertAll ⟨.memory .empty, fun _ _ => false, 0⟩
        (List.replicate count (.empty, 0)) with refuses }
    { emitRange }
  bus := .standard

end Emitter

/-- Single requests that get listed statuses one after the other. The sendings past
the list break off. -/
def Transport.answeringStatuses (statuses : List (Option Nat)) : Transport where
  method := .get
  answer := fun index request =>
    match statuses[index]? with
    | some status => .returned (request.result status)
    | none => .panicked

/-- Of four rows one is delivered, one is kept, one is given up, and the sending of
one breaks off. A fifth is inserted meanwhile. -/
theorem Emitter.cycle_keeps_broken_and_retained_rows :
    let emitter := ofEmptyRows 4 10 fun _ _ => false
    let transport := Transport.answeringStatuses [some 200, some 503, some 410]
    let arrivals : Arrivals := { afterSending := [(.empty, 7)] }
    emitter.CallsSucceed transport 0 arrivals ∧
      (emitter.cycle transport 0 arrivals).2.queue.backend.contents =
        [⟨2, .payload .empty, 0⟩, ⟨4, .payload .empty, 0⟩, ⟨5, .payload .empty, 7⟩] ∧
      (emitter.cycle transport 0 arrivals).1 =
        some { attempted := 4, sent := 1, dropped := 1, retained := 1 } := by
  intro emitter transport arrivals
  have succeed : emitter.CallsSucceed transport 0 arrivals :=
    ⟨_, _, rfl, trivial, _, _, rfl, ⟨⟨_, rfl⟩, trivial⟩, removeRows_of_memory rfl rfl⟩
  obtain ⟨rows, reported, _⟩ :=
    emitter.cycle_removes_final_rows transport 0 arrivals succeed
  refine ⟨succeed, ?_, ?_⟩
  · rw [rows]
    decide
  · rw [reported]
    decide

end Telemetry

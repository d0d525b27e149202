import Telemetry.Proofs.Delivery.Activity

/-!
Contract: in which runs a row is handed over again, and what a paused emitter does.

Owns:
- what one move can do to the rows, the page under way and the paused flag;
- that a row that has left the queue is never pulled again;
- that a delivered row is pulled again only after its removal failed and the emitter was
  resumed;
- that a paused emitter starts no cycle.

Does not own: whether a removal fails.
-/

namespace Telemetry

namespace Activity

variable {activity : Activity}

/-! ### What one move can do -/

/-- The drain is between two cycles, or there is none. -/
def AtBoundary (activity : Activity) : Prop :=
  activity.stage = .idle ∨ activity.stage = .deciding

theorem AtBoundary.not_sending (boundary : activity.AtBoundary) (page : List QueuedEvent) :
    activity.stage ≠ .sending page := by
  rcases boundary with idle | deciding
  · rw [idle]
    nofun
  · rw [deciding]
    nofun

/-- Nothing was handed over, and rows were at most added. -/
structure Quiet (before after : Activity) : Prop where
  handed : after.emitter.handed = before.emitter.handed
  rows : ∃ added, before.emitter.queue.backend.Extends added after.emitter.queue.backend

/-- The drain is where it was, too. -/
structure Untouched (before after : Activity) : Prop extends Quiet before after where
  stage : after.stage = before.stage
  config : after.emitter.config = before.emitter.config

theorem step_untouched (activity : Activity) (transport : Transport) {move : Move}
    (other : ∀ now, move ≠ .proceed now) :
    activity.Untouched (activity.step transport move) := by
  have same := activity.emitter.queue.backend.extends_self
  cases move with
  | insert payload instant =>
      exact ⟨⟨rfl, activity.emitter.accept_extends [(payload, instant)]⟩, rfl, rfl⟩
  | pause =>
      obtain ⟨queue, config, handed⟩ := activity.emitter.pause_frame Emitter.callerReason
      refine ⟨⟨handed, [], ?_⟩, rfl, config⟩
      rw [step, queue]
      exact same
  | resume => exact ⟨⟨rfl, [], same⟩, rfl, rfl⟩
  | switch refuses => exact ⟨⟨rfl, [], same⟩, rfl, rfl⟩
  | ask => exact ⟨⟨rfl, [], same⟩, rfl, rfl⟩
  | proceed now => exact absurd rfl (other now)

/-- A drain that proceeds starts or stops between cycles, reads a page, sends it, or
settles it. -/
theorem proceed_cases (activity : Activity) (transport : Transport) (now : Int) :
    (activity.AtBoundary ∧ (activity.proceed transport now).AtBoundary ∧
        (activity.proceed transport now).emitter = activity.emitter) ∨
      (activity.stage = .deciding ∧ activity.emitter.paused = false ∧
        (activity.proceed transport now).emitter = (activity.emitter.readPage now).2 ∧
        ((activity.proceed transport now).stage = .idle ∨
          ∃ page, (activity.proceed transport now).stage = .sending page ∧
            (activity.emitter.readPage now).1 = some page)) ∨
      (∃ page, activity.stage = .sending page ∧
        (activity.proceed transport now).emitter =
          (activity.emitter.sendPage transport now page).2 ∧
        (activity.proceed transport now).stage =
          .settling (activity.emitter.sendPage transport now page).1) ∨
      ∃ sent, activity.stage = .settling sent ∧ (activity.proceed transport now).AtBoundary ∧
        (activity.proceed transport now).emitter = (activity.emitter.settle sent).2 := by
  cases stage : activity.stage with
  | idle =>
      left
      refine ⟨.inl stage, ?_⟩
      cases waiting : activity.waiting with
      | zero =>
          have same : activity.proceed transport now = activity := by
            simp only [proceed, stage, waiting]
          rw [same]
          exact ⟨.inl stage, rfl⟩
      | succ more =>
          have starts : activity.proceed transport now =
              { activity with stage := .deciding, waiting := more } := by
            simp only [proceed, stage, waiting]
          rw [starts]
          exact ⟨.inr rfl, rfl⟩
  | deciding =>
      by_cases paused : activity.emitter.paused = true
      · left
        have stops : activity.proceed transport now = { activity with stage := .idle } := by
          simp only [proceed, stage, paused, if_true]
        rw [stops]
        exact ⟨.inr stage, .inl rfl, rfl⟩
      · right
        left
        rw [Bool.not_eq_true] at paused
        refine ⟨rfl, paused, ?_⟩
        rw [proceed, stage]
        simp only [paused, Bool.false_eq_true, if_false]
        cases read : activity.emitter.readPage now with
        | mk answer reading =>
            cases answer with
            | none => exact ⟨rfl, .inl rfl⟩
            | some page =>
                cases page with
                | nil => exact ⟨rfl, .inl rfl⟩
                | cons event rest => exact ⟨rfl, .inr ⟨_, rfl, rfl⟩⟩
  | sending page =>
      right
      right
      left
      rw [proceed, stage]
      exact ⟨page, rfl, rfl, rfl⟩
  | settling sent =>
      right
      right
      right
      have settles : activity.proceed transport now =
          { activity with
            emitter := (activity.emitter.settle sent).2
            stage := if Emitter.goesOn (activity.emitter.settle sent).2.config
              (activity.emitter.settle sent).1 then .deciding else .idle } := by
        rw [proceed, stage]
      rw [settles]
      refine ⟨sent, rfl, ?_, rfl⟩
      rw [AtBoundary]
      split
      · exact .inr rfl
      · exact .inl rfl

/-! ### While the emitter is paused -/

/-- Only a resumption makes a paused emitter run, and no page is read until then. -/
theorem paused_step (transport : Transport) (paused : activity.emitter.paused = true)
    {move : Move} (stays : move ≠ .resume) :
    (activity.step transport move).emitter.paused = true ∧
      ∀ page, (activity.step transport move).stage = .sending page →
        activity.stage = .sending page := by
  cases move with
  | insert payload instant => exact ⟨paused, fun _ sending => sending⟩
  | pause => exact ⟨Emitter.pause_paused _ _, fun _ sending => sending⟩
  | resume => exact absurd rfl stays
  | switch refuses => exact ⟨paused, fun _ sending => sending⟩
  | ask => exact ⟨paused, fun _ sending => sending⟩
  | proceed now =>
      rw [step]
      rcases activity.proceed_cases transport now with
        ⟨_, boundary, same⟩ | ⟨_, running, _⟩ | ⟨page, _, sends, settles⟩ |
          ⟨sent, _, boundary, settles⟩
      · rw [same]
        exact ⟨paused, fun page sending => absurd sending (boundary.not_sending page)⟩
      · rw [paused] at running
        cases running
      · rw [sends, settles]
        refine ⟨paused, ?_⟩
        intro page sending
        cases sending
      · rw [settles]
        refine ⟨?_, fun page sending => absurd sending (boundary.not_sending page)⟩
        rcases Emitter.settle_cases activity.emitter sent with ⟨_, now, _⟩ | ⟨_, same, _⟩
        · exact now
        · exact same.trans paused

theorem paused_after (transport : Transport) (paused : activity.emitter.paused = true)
    {moves : List Move} (stays : .resume ∉ moves) :
    (activity.after transport moves).emitter.paused = true ∧
      ∀ page, (activity.after transport moves).stage = .sending page →
        activity.stage = .sending page := by
  induction moves generalizing activity with
  | nil => exact ⟨paused, fun _ sending => sending⟩
  | cons move rest inductionHypothesis =>
      rw [List.mem_cons, not_or] at stays
      obtain ⟨pausedNext, readBefore⟩ := paused_step transport paused (Ne.symm stays.1)
      obtain ⟨pausedLast, readSince⟩ := inductionHypothesis pausedNext stays.2
      exact ⟨pausedLast, fun page sending => readBefore page (readSince page sending)⟩

/-- Paused between two cycles. -/
structure AtRest (activity : Activity) : Prop where
  paused : activity.emitter.paused = true
  boundary : activity.AtBoundary

theorem AtRest.step (rest : activity.AtRest) (transport : Transport) {move : Move}
    (stays : move ≠ .resume) :
    (activity.step transport move).AtRest ∧ activity.Quiet (activity.step transport move) := by
  have pausedNext := (paused_step transport rest.paused stays).1
  by_cases proceeds : ∃ now, move = .proceed now
  · obtain ⟨now, rfl⟩ := proceeds
    rcases activity.proceed_cases transport now with
      ⟨_, boundary, same⟩ | ⟨_, running, _⟩ | ⟨page, sending, _⟩ | ⟨sent, settling, _⟩
    · refine ⟨⟨pausedNext, boundary⟩, ?_⟩
      constructor
      · exact congrArg (fun emitter : Emitter => emitter.handed) same
      · rw [Activity.step, same]
        exact ⟨[], QueueBackend.extends_self _⟩
    · rw [rest.paused] at running
      cases running
    · exact absurd sending (rest.boundary.not_sending page)
    · rcases rest.boundary with idle | deciding
      · rw [idle] at settling
        cases settling
      · rw [deciding] at settling
        cases settling
  · have untouched := activity.step_untouched transport (not_exists.mp proceeds)
    refine ⟨⟨pausedNext, ?_⟩, untouched.toQuiet⟩
    rw [AtBoundary, untouched.stage]
    exact rest.boundary

/-- A paused emitter stays as it is until it is resumed, apart from rows that trackers
add. -/
theorem AtRest.after (rest : activity.AtRest) (transport : Transport) {moves : List Move}
    (stays : .resume ∉ moves) :
    (activity.after transport moves).AtRest ∧
      activity.Quiet (activity.after transport moves) := by
  induction moves generalizing activity with
  | nil => exact ⟨rest, rfl, [], QueueBackend.extends_self _⟩
  | cons move further inductionHypothesis =>
      rw [List.mem_cons, not_or] at stays
      obtain ⟨restNext, ⟨handed, added, extended⟩⟩ :=
        rest.step transport (Ne.symm stays.1)
      obtain ⟨restLast, ⟨handedLast, more, extendedLast⟩⟩ := inductionHypothesis restNext stays.2
      exact ⟨restLast, handedLast.trans handed, _, extended.trans extendedLast⟩

/-! ### Rows that have left the queue -/

/-- The number was used, no row has it any more, and it is not in a page to be sent. -/
structure Gone (id : RowId) (activity : Activity) : Prop where
  used : id ≤ activity.emitter.queue.backend.lastId
  absent : ∀ row ∈ activity.emitter.queue.backend.contents, row.id ≠ id
  unread : ∀ page, activity.stage = .sending page → id ∉ page.map QueuedEvent.id

/-- No number is used twice, so a row that is gone does not come back. -/
theorem Gone.of_quiet {id : RowId} {before after : Activity} (gone : Gone id before)
    (quiet : before.Quiet after)
    (unread : ∀ page, after.stage = .sending page → id ∉ page.map QueuedEvent.id) :
    Gone id after := by
  obtain ⟨added, extended⟩ := quiet.rows
  refine ⟨Int.le_trans gone.used extended.last, ?_, unread⟩
  rintro row member rfl
  exact gone.absent row (extended.mem_contents member gone.used) rfl

theorem Gone.of_hasRows {id : RowId} {before after : Activity} {rows : List StoredRow}
    (gone : Gone id before) (sub : rows.Sublist before.emitter.queue.backend.contents)
    (hasRows : before.emitter.queue.backend.HasRows rows after.emitter.queue.backend)
    (unread : ∀ page, after.stage = .sending page → id ∉ page.map QueuedEvent.id) :
    Gone id after := by
  refine ⟨?_, ?_, unread⟩
  · rw [hasRows.lastId]
    exact gone.used
  · intro row member
    rw [hasRows.contents] at member
    exact gone.absent row (sub.subset member)

theorem pageAt_unread {emitter : Emitter} {id : RowId}
    (absent : ∀ row ∈ emitter.queue.backend.contents, row.id ≠ id) (now : Int) :
    id ∉ (emitter.pageAt now).map QueuedEvent.id := by
  intro pulled
  have stored := ((emitter.rowsAt_sublist now).map StoredRow.id).subset
    ((emitter.pageAt_ids_sublist now).subset pulled)
  obtain ⟨row, member, same⟩ := List.mem_map.mp stored
  exact absent row member same

theorem Gone.step {id : RowId} (gone : Gone id activity) (transport : Transport) (move : Move) :
    Gone id (activity.step transport move) := by
  by_cases proceeds : ∃ now, move = .proceed now
  · obtain ⟨now, rfl⟩ := proceeds
    rw [Activity.step]
    rcases activity.proceed_cases transport now with
      ⟨_, boundary, same⟩ | ⟨_, _, reads, pulls⟩ | ⟨page, _, sends, settles⟩ |
        ⟨sent, _, boundary, settles⟩
    · refine gone.of_quiet ⟨?_, [], ?_⟩ fun page sending =>
        absurd sending (boundary.not_sending page)
      · rw [same]
      · rw [same]
        exact QueueBackend.extends_self _
    · obtain ⟨rows, sub, hasRows⟩ := activity.emitter.readPage_hasRows now
      rw [← reads] at hasRows
      refine gone.of_hasRows sub hasRows fun page sending => ?_
      rcases pulls with idle | ⟨pulled, isSending, read⟩
      · rw [idle] at sending
        cases sending
      · obtain rfl := DrainStage.sending.inj (isSending.symm.trans sending)
        rcases activity.emitter.readPage_cases now with
          ⟨_, _, _, _, failed⟩ | ⟨_, _, isRead⟩
        · rw [failed] at read
          cases read
        · rw [isRead] at read
          rw [← Option.some.inj read]
          exact pageAt_unread gone.absent now
    · refine gone.of_hasRows (List.Sublist.refl _) ?_ ?_
      · rw [sends]
        exact QueueBackend.hasRows_self _
      · intro page sending
        rw [settles] at sending
        cases sending
    · have unread : ∀ page, (activity.proceed transport now).stage = .sending page →
          id ∉ page.map QueuedEvent.id :=
        fun page sending => absurd sending (boundary.not_sending page)
      rcases Emitter.settle_cases activity.emitter sent with ⟨_, _, rows⟩ | ⟨_, _, rows⟩
      · rw [← settles] at rows
        exact gone.of_hasRows (List.Sublist.refl _) rows unread
      · rw [← settles] at rows
        exact gone.of_hasRows List.filter_sublist rows unread
  · have untouched := activity.step_untouched transport (not_exists.mp proceeds)
    refine gone.of_quiet untouched.toQuiet fun page sending => ?_
    rw [untouched.stage] at sending
    exact gone.unread page sending

theorem Gone.after {id : RowId} (gone : Gone id activity) (transport : Transport)
    (moves : List Move) : Gone id (activity.after transport moves) := by
  induction moves generalizing activity with
  | nil => exact gone
  | cons move rest inductionHypothesis => exact inductionHypothesis (gone.step transport move)

/-! ### Rows whose removal is due -/

/-- A page to be sent has no row twice, and only numbers that were used. -/
def PageNumbered (activity : Activity) : Prop :=
  ∀ page, activity.stage = .sending page →
    Numbered (page.map QueuedEvent.id) activity.emitter.queue.backend.lastId

theorem PageNumbered.step (numbered : activity.PageNumbered) (transport : Transport)
    (move : Move) : (activity.step transport move).PageNumbered := by
  intro page sending
  by_cases proceeds : ∃ now, move = .proceed now
  · obtain ⟨now, rfl⟩ := proceeds
    rw [Activity.step] at sending ⊢
    rcases activity.proceed_cases transport now with
      ⟨_, boundary, _⟩ | ⟨_, _, reads, pulls⟩ | ⟨_, _, _, settles⟩ | ⟨_, _, boundary, _⟩
    · exact absurd sending (boundary.not_sending page)
    · rcases pulls with idle | ⟨pulled, isSending, read⟩
      · rw [idle] at sending
        cases sending
      · obtain rfl := DrainStage.sending.inj (isSending.symm.trans sending)
        rcases activity.emitter.readPage_cases now with
          ⟨_, _, _, _, failed⟩ | ⟨queue, hasRows, isRead⟩
        · rw [failed] at read
          cases read
        · rw [isRead] at read reads
          rw [reads, ← Option.some.inj read, hasRows.lastId]
          exact activity.emitter.pageAt_ids_numbered now
    · rw [settles] at sending
      cases sending
    · exact absurd sending (boundary.not_sending page)
  · have untouched := activity.step_untouched transport (not_exists.mp proceeds)
    rw [untouched.stage] at sending
    obtain ⟨added, extended⟩ := untouched.rows
    have before := numbered page sending
    exact ⟨before.ascending, fun id member => Int.le_trans (before.bounded id member) extended.last⟩

theorem PageNumbered.after (numbered : activity.PageNumbered) (transport : Transport)
    (moves : List Move) : (activity.after transport moves).PageNumbered := by
  induction moves generalizing activity with
  | nil => exact numbered
  | cons move rest inductionHypothesis => exact inductionHypothesis (numbered.step transport move)

/-- The row is in the page that is sent next. -/
def SendsNext (id : RowId) (activity : Activity) : Prop :=
  ∃ page, activity.stage = .sending page ∧ id ∈ page.map QueuedEvent.id

/-- The row is in the page that is sent next, and its request will be answered with a
success. -/
def Delivers (transport : Transport) (now : Int) (id : RowId) (activity : Activity) : Prop :=
  ∃ page, activity.stage = .sending page ∧
    ∃ answered ∈ transport.answers now activity.emitter.handed.length
        (activity.emitter.requestsOf transport.method page),
      id ∈ answered.1.ids ∧ answered.2.Delivers

/-- The results under way name the row among those to remove. -/
structure Due (id : RowId) (activity : Activity) : Prop where
  used : id ≤ activity.emitter.queue.backend.lastId
  settled : ∃ sent, activity.stage = .settling sent ∧
    id ∈ Emitter.settledIds activity.emitter.config.retry sent.results

/-- Removing the settled rows of the results under way fails. -/
def RemovalFails (activity : Activity) : Prop :=
  ∃ sent cause, activity.stage = .settling sent ∧
    (activity.emitter.removeRows
      (Emitter.settledIds activity.emitter.config.retry sent.results)).1 = .error cause

/-- The first time that the drain proceeds in these moves its removal fails, and after
that the emitter is resumed. -/
def ResumedAfterFailure (transport : Transport) (activity : Activity) (moves : List Move) :
    Prop :=
  ∃ meanwhile now later rest,
    moves = meanwhile ++ .proceed now :: (later ++ .resume :: rest) ∧
      (∀ move ∈ meanwhile, ∀ instant, move ≠ .proceed instant) ∧
      (activity.after transport meanwhile).RemovalFails

theorem due_of_delivers {transport : Transport} {now : Int} {id : RowId}
    (numbered : activity.PageNumbered) (delivers : activity.Delivers transport now id) :
    Due id (activity.step transport (.proceed now)) := by
  obtain ⟨page, sending, answered, member, inRequest, success⟩ := delivers
  have sends : activity.step transport (.proceed now) =
      { activity with
        emitter := (activity.emitter.sendPage transport now page).2
        stage := .settling (activity.emitter.sendPage transport now page).1 } := by
    rw [step, proceed, sending]
  have inPage : id ∈ page.map QueuedEvent.id := by
    apply (activity.emitter.requestsOf_ids_perm transport.method page).subset
    rw [← transport.answers_ids now activity.emitter.handed.length]
    exact List.mem_flatMap.mpr ⟨answered, member, inRequest⟩
  rw [sends]
  refine ⟨(numbered page sending).bounded id inPage, _, rfl, ?_⟩
  rw [Emitter.sendPage, Emitter.dispatch, Transport.outcomes_stamped]
  exact mem_settledIds_answers.mpr ⟨answered, member, inRequest, success.final⟩

/-- A row that is due is pulled again only by way of a failed removal and a resumption:
if the removal succeeds it is gone for ever, and otherwise the emitter is at rest until
it is resumed. -/
theorem Due.resumedAfterFailure {id : RowId} (due : Due id activity) (transport : Transport)
    {moves : List Move} (again : SendsNext id (activity.after transport moves)) :
    activity.ResumedAfterFailure transport moves := by
  obtain ⟨sent, settling, settled⟩ := due.settled
  induction moves generalizing activity with
  | nil =>
      obtain ⟨page, sending, _⟩ := again
      rw [after_nil, settling] at sending
      cases sending
  | cons move rest inductionHypothesis =>
      rw [after_cons] at again
      by_cases proceeds : ∃ now, move = .proceed now
      · obtain ⟨now, rfl⟩ := proceeds
        rw [step] at again
        rcases activity.proceed_cases transport now with
          ⟨idle | deciding, _⟩ | ⟨deciding, _⟩ | ⟨_, sending, _⟩ | ⟨results, same, boundary, settles⟩
        · rw [idle] at settling
          cases settling
        · rw [deciding] at settling
          cases settling
        · rw [deciding] at settling
          cases settling
        · rw [sending] at settling
          cases settling
        obtain rfl := DrainStage.settling.inj (settling.symm.trans same)
        rcases Emitter.settle_cases activity.emitter sent with
          ⟨⟨cause, failed⟩, paused, _⟩ | ⟨_, _, rows⟩
        · rw [← settles] at paused
          have atRest : (activity.proceed transport now).AtRest := ⟨paused, boundary⟩
          have resumed : .resume ∈ rest := by
            apply Classical.byContradiction
            intro stays
            obtain ⟨page, sending, _⟩ := again
            exact (atRest.after transport stays).1.boundary.not_sending page sending
          obtain ⟨later, more, isRest⟩ := List.append_of_mem resumed
          refine ⟨[], now, later, more, ?_, ?_, sent, cause, settling, failed⟩
          · rw [isRest, List.nil_append]
          · intro other member
            cases member
        · have gone : Gone id (activity.proceed transport now) := by
            rw [← settles] at rows
            refine ⟨?_, ?_, fun page sending => absurd sending (boundary.not_sending page)⟩
            · rw [rows.lastId]
              exact due.used
            · rintro row member rfl
              rw [rows.contents] at member
              exact of_decide_eq_true (List.mem_filter.mp member).2 settled
          obtain ⟨page, sending, pulled⟩ := again
          exact absurd pulled ((gone.after transport rest).unread page sending)
      · have untouched := activity.step_untouched transport (not_exists.mp proceeds)
        have settlingNext := untouched.stage.trans settling
        have settledNext : id ∈ Emitter.settledIds
            (activity.step transport move).emitter.config.retry sent.results := by
          rw [untouched.config]
          exact settled
        obtain ⟨added, extended⟩ := untouched.rows
        have usedNext := Int.le_trans due.used extended.last
        obtain ⟨meanwhile, now, later, more, isRest, others, fails⟩ :=
          inductionHypothesis ⟨usedNext, sent, settlingNext, settledNext⟩ again settlingNext settledNext
        refine ⟨move :: meanwhile, now, later, more, ?_, ?_, fails⟩
        · rw [isRest, List.cons_append]
        · intro other member
          rcases List.mem_cons.mp member with rfl | inMeanwhile
          · exact not_exists.mp proceeds
          · exact others other inMeanwhile

/-! ### All runs -/

/-- In every run that starts without a drain: no page carries a row twice; a row whose
request was a success is sent again only if the removal of that cycle failed and the
emitter was resumed after it; and while the emitter is paused no page is read, so that
from the next boundary of cycles on nothing is sent, removed or evicted. -/
theorem delivers_once_unless_resumed (transport : Transport) (emitter : Emitter)
    (moves : List Move) :
    let activity := Activity.after transport { emitter } moves
    (∀ page, activity.stage = .sending page →
        ((activity.emitter.requestsOf transport.method page).flatMap Request.ids).Nodup) ∧
      (∀ now id, activity.Delivers transport now id → ∀ further,
        SendsNext id ((activity.step transport (.proceed now)).after transport further) →
          (activity.step transport (.proceed now)).ResumedAfterFailure transport further) ∧
      (activity.emitter.paused = true → ∀ further, .resume ∉ further →
        (∀ page, (activity.after transport further).stage = .sending page →
            activity.stage = .sending page) ∧
          (activity.AtBoundary →
            (activity.after transport further).AtRest ∧
              activity.Quiet (activity.after transport further))) := by
  intro activity
  have start : PageNumbered { emitter } := nofun
  have numbered : activity.PageNumbered := start.after transport moves
  refine ⟨?_, ?_, ?_⟩
  · intro page sending
    rw [(activity.emitter.requestsOf_ids_perm transport.method page).nodup_iff]
    exact (numbered page sending).nodup
  · intro now id delivers further again
    exact (due_of_delivers numbered delivers).resumedAfterFailure transport again
  · intro paused further stays
    refine ⟨(paused_after transport paused stays).2, ?_⟩
    intro boundary
    exact AtRest.after ⟨paused, boundary⟩ transport stays

/-- The queue refuses removals. A delivered row is sent again after a resumption; without
one the emitter keeps still though drains are asked for. -/
theorem redelivers_after_refused_removal :
    let transport := Transport.answeringStatuses [some 200]
    let emitter := Emitter.ofEmptyRows 1 1 fun call _ => decide (call = .remove)
    let sending := Activity.after transport { emitter } [.ask, .proceed 0, .proceed 0]
    let settling := sending.step transport (.proceed 0)
    let paused := Activity.after transport { emitter }
      [.ask, .proceed 0, .proceed 0, .proceed 0, .proceed 0]
    sending.Delivers transport 0 1 ∧
      SendsNext 1 (settling.after transport [.proceed 0, .resume, .proceed 0]) ∧
      settling.ResumedAfterFailure transport [.proceed 0, .resume, .proceed 0] ∧
      paused.emitter.paused = true ∧ paused.AtBoundary ∧
      paused.Quiet (paused.after transport [.ask, .proceed 0, .ask, .proceed 0]) := by
  intro transport emitter sending settling paused
  have pulled : sending.stage = .sending [⟨1, .empty⟩] := rfl
  have pulledAgain : (settling.after transport [.proceed 0, .resume, .proceed 0]).stage =
      .sending [⟨1, .empty⟩] := by
    simp only [settling, sending, emitter, transport]
    decide +kernel
  have answers : transport.answers 0 sending.emitter.handed.length
      (sending.emitter.requestsOf transport.method [⟨1, .empty⟩]) =
        [(⟨[⟨1, .empty⟩], false⟩, .returned ⟨some 200, false, [1]⟩)] := rfl
  have delivers : sending.Delivers transport 0 1 := by
    refine ⟨_, pulled, ?_⟩
    rw [answers]
    exact ⟨_, List.mem_singleton_self _, by decide, 200, rfl, by decide⟩
  have again : SendsNext 1 (settling.after transport [.proceed 0, .resume, .proceed 0]) :=
    ⟨_, pulledAgain, by decide⟩
  have boundary : paused.AtBoundary := .inr rfl
  obtain ⟨_, redelivers, _⟩ :=
    delivers_once_unless_resumed transport emitter [.ask, .proceed 0, .proceed 0]
  obtain ⟨_, _, keepsStill⟩ := delivers_once_unless_resumed transport emitter
    [.ask, .proceed 0, .proceed 0, .proceed 0, .proceed 0]
  obtain ⟨_, quiet⟩ := keepsStill rfl [.ask, .proceed 0, .ask, .proceed 0] (by simp)
  exact ⟨delivers, again, redelivers 0 1 delivers _ again, rfl, boundary, (quiet boundary).2⟩

end Activity

end Telemetry

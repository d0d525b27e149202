import Telemetry.Delivery.Emitter
import Telemetry.Proofs.Delivery.Grouping
import Telemetry.Proofs.Queue.Calls

/-!
Contract: what each phase of a drain cycle does to an emitter.

Owns:
- one law for each phase: reading a page, taking in arrivals, sending, removing
  rows, settling;
- what a phase leaves alone: the set-up, the handed requests, the paused flag;
- the results of a page as the answers of the transport to its requests.

Does not own: the cycle that joins the phases, and the loop that joins cycles.
-/

namespace Telemetry

namespace Emitter

/-! ### Reading and taking in -/

theorem readRows_cases (emitter : Emitter) :
    (∃ queue,
        emitter.queue.backend.HasRows emitter.queue.backend.contents queue.backend ∧
        emitter.readRows = (none, { emitter with queue })) ∨
      ∃ queue,
        emitter.queue.backend.HasRows
          (afterReading emitter.config.emitRange emitter.queue.backend.contents) queue.backend ∧
        emitter.readRows =
          (some (firstEvents emitter.config.emitRange emitter.queue.backend.contents),
            { emitter with queue }) := by
  unfold readRows
  rcases emitter.queue.emittable_cases emitter.config.emitRange with
    ⟨cause, failed⟩ | ⟨backend, rows, read⟩
  · rw [failed]
    exact .inl ⟨emitter.queue.called, QueueBackend.hasRows_self _, rfl⟩
  · rw [read]
    exact .inr ⟨_, rows, rfl⟩

/-- The events that a cycle pulls at an instant. -/
def pageAt (emitter : Emitter) (now : Int) : List QueuedEvent :=
  firstEvents emitter.config.emitRange
    (emitter.config.eviction.kept now emitter.queue.backend.contents)

/-- The rows that eviction and reading leave at an instant. -/
def rowsAt (emitter : Emitter) (now : Int) : List StoredRow :=
  afterReading emitter.config.emitRange
    (emitter.config.eviction.kept now emitter.queue.backend.contents)

theorem rowsAt_sublist (emitter : Emitter) (now : Int) :
    (emitter.rowsAt now).Sublist emitter.queue.backend.contents :=
  (afterReading_sublist _ _).trans (Eviction.kept_sublist _ _ _)

/-- The page is made of rows that reading leaves. -/
theorem pageAt_ids_sublist (emitter : Emitter) (now : Int) :
    ((emitter.pageAt now).map QueuedEvent.id).Sublist
      ((emitter.rowsAt now).map StoredRow.id) :=
  firstEvents_ids_sublist _ _

theorem pageAt_ids_numbered (emitter : Emitter) (now : Int) :
    Numbered ((emitter.pageAt now).map QueuedEvent.id) emitter.queue.backend.lastId :=
  emitter.queue.backend.numbered.sublist
    ((emitter.pageAt_ids_sublist now).trans ((emitter.rowsAt_sublist now).map _))

/-- A page is read after eviction. If either fails, rows can be gone but none is
changed. -/
theorem readPage_cases (emitter : Emitter) (now : Int) :
    (∃ rows queue, rows.Sublist emitter.queue.backend.contents ∧
        emitter.queue.backend.HasRows rows queue.backend ∧
        emitter.readPage now = (none, { emitter with queue })) ∨
      ∃ queue,
        emitter.queue.backend.HasRows (emitter.rowsAt now) queue.backend ∧
        emitter.readPage now = (some (emitter.pageAt now), { emitter with queue }) := by
  unfold readPage rowsAt pageAt
  split
  · next unbounded =>
    rw [Eviction.kept_of_isUnbounded unbounded]
    rcases emitter.readRows_cases with ⟨queue, rows, failed⟩ | read
    · exact .inl ⟨_, queue, List.Sublist.refl _, rows, failed⟩
    · exact .inr read
  · rcases emitter.queue.evict_cases emitter.config.eviction now with
      ⟨cause, failed⟩ | ⟨removed, evicted, keptRows, evicts⟩
    · rw [failed]
      exact .inl ⟨_, emitter.queue.called, List.Sublist.refl _, QueueBackend.hasRows_self _, rfl⟩
    · rw [evicts]
      rcases readRows_cases
          { emitter with queue := { emitter.queue.called with backend := evicted } } with
        ⟨queue, rows, failed⟩ | ⟨queue, rows, read⟩
      · simp only [keptRows.contents] at rows
        exact .inl ⟨_, queue, Eviction.kept_sublist _ _ _, keptRows.trans rows, failed⟩
      · simp only [keptRows.contents] at rows read
        exact .inr ⟨queue, keptRows.trans rows, read⟩

theorem readPage_hasRows (emitter : Emitter) (now : Int) :
    ∃ rows, rows.Sublist emitter.queue.backend.contents ∧
      emitter.queue.backend.HasRows rows (emitter.readPage now).2.queue.backend := by
  rcases emitter.readPage_cases now with ⟨rows, queue, sub, hasRows, read⟩ | ⟨queue, hasRows, read⟩
  · exact ⟨rows, sub, by rw [read]; exact hasRows⟩
  · exact ⟨_, emitter.rowsAt_sublist now, by rw [read]; exact hasRows⟩

/-- Reading a page changes the queue alone. -/
theorem readPage_frame (emitter : Emitter) (now : Int) :
    (emitter.readPage now).2 = { emitter with queue := (emitter.readPage now).2.queue } := by
  rcases emitter.readPage_cases now with ⟨_, _, _, _, read⟩ | ⟨_, _, read⟩ <;> rw [read]

theorem accept_extends (emitter : Emitter) (arrived : List (Payload × Int)) :
    ∃ added, emitter.queue.backend.Extends added (emitter.accept arrived).queue.backend :=
  emitter.queue.insertAll_extends arrived

/-! ### Pausing, removing and settling -/

theorem pause_paused (emitter : Emitter) (reason : String) :
    (emitter.pause reason).paused = true := by
  unfold pause
  split
  · assumption
  · rfl

/-- Pausing leaves the queue, the set-up and the handed requests alone. -/
theorem pause_frame (emitter : Emitter) (reason : String) :
    (emitter.pause reason).queue = emitter.queue ∧
      (emitter.pause reason).config = emitter.config ∧
      (emitter.pause reason).handed = emitter.handed := by
  unfold pause
  split <;> exact ⟨rfl, rfl, rfl⟩

theorem removeRows_cases (emitter : Emitter) (ids : List RowId) :
    (∃ cause, emitter.removeRows ids =
        (.error cause, { emitter with queue := emitter.queue.called })) ∨
      ∃ queue,
        emitter.queue.backend.HasRows
          (emitter.queue.backend.contents.filter fun row => row.id ∉ ids) queue.backend ∧
        emitter.removeRows ids = (.ok (), { emitter with queue }) := by
  unfold removeRows
  split
  · next none =>
    have same : (emitter.queue.backend.contents.filter fun row => row.id ∉ ids) =
        emitter.queue.backend.contents := by
      rw [List.isEmpty_iff.mp none]
      exact List.filter_eq_self.mpr (by simp)
    rw [same]
    exact .inr ⟨emitter.queue, QueueBackend.hasRows_self _, rfl⟩
  · rcases emitter.queue.remove_cases ids with ⟨cause, failed⟩ | ⟨removed, backend, rows, removes⟩
    · rw [failed]
      exact .inl ⟨cause, rfl⟩
    · rw [removes]
      exact .inr ⟨_, rows, rfl⟩

/-- Memory fails no call that is not refused. -/
theorem removeRows_of_memory
    {emitter : Emitter} {ids : List RowId} {queue : MemoryQueue}
    (inMemory : emitter.queue.backend = .memory queue)
    (answers : emitter.queue.refuses .remove emitter.queue.calls = false) :
    (emitter.removeRows ids).1 = .ok () := by
  unfold removeRows
  split
  · rfl
  · rw [EventQueue.remove, EventQueue.guarded, answers, inMemory]
    rfl

theorem readPage_of_memory {emitter : Emitter} {queue : MemoryQueue}
    (unbounded : emitter.config.eviction.isUnbounded = true)
    (answering : emitter.queue.refuses .read emitter.queue.calls = false)
    (inMemory : emitter.queue.backend = .memory queue) (now : Int) :
    emitter.readPage now =
      (some (queue.emittable emitter.config.emitRange),
        { emitter with queue := emitter.queue.called }) := by
  have called : { emitter.queue.called with backend := .memory queue } = emitter.queue.called := by
    rw [← inMemory]
    rfl
  rw [readPage, if_pos unbounded, readRows, EventQueue.emittable, EventQueue.guarded, answering,
    inMemory]
  simp only [QueueBackend.emittable, called]
  rfl

/-- Settling a page removes its settled rows, or else pauses the emitter and leaves
all rows. -/
theorem settle_cases (emitter : Emitter) (sent : SentPage) :
    ((∃ cause, (emitter.removeRows (settledIds emitter.config.retry sent.results)).1 =
          .error cause) ∧
        (emitter.settle sent).2.paused = true ∧
        emitter.queue.backend.HasRows emitter.queue.backend.contents
          (emitter.settle sent).2.queue.backend) ∨
      ((emitter.removeRows (settledIds emitter.config.retry sent.results)).1 = .ok () ∧
        (emitter.settle sent).2.paused = emitter.paused ∧
        emitter.queue.backend.HasRows
          (emitter.queue.backend.contents.filter fun row =>
            row.id ∉ settledIds emitter.config.retry sent.results)
          (emitter.settle sent).2.queue.backend) := by
  unfold settle removeSettled
  rcases emitter.removeRows_cases (settledIds emitter.config.retry sent.results) with
    ⟨cause, failed⟩ | ⟨queue, rows, removes⟩
  · left
    simp only [failed]
    refine ⟨⟨cause, rfl⟩, pause_paused _ _, ?_⟩
    rw [(pause_frame _ _).1]
    exact QueueBackend.hasRows_self _
  · right
    simp only [removes, true_and]
    exact rows

theorem settle_frame (emitter : Emitter) (sent : SentPage) :
    (emitter.settle sent).2.config = emitter.config ∧
      (emitter.settle sent).2.handed = emitter.handed := by
  unfold settle removeSettled
  rcases emitter.removeRows_cases (settledIds emitter.config.retry sent.results) with
    ⟨cause, failed⟩ | ⟨queue, _, removes⟩
  · simp only [failed]
    exact (pause_frame _ _).2
  · simp only [removes, and_self]

/-- A page without results changes no row. -/
theorem settle_of_noResults (emitter : Emitter) {sent : SentPage} (none : sent.results = []) :
    (emitter.removeRows (settledIds emitter.config.retry sent.results)).1 = .ok () ∧
      (emitter.settle sent).2.toOutbox = emitter.toOutbox := by
  rw [settle, none]
  exact ⟨rfl, rfl⟩

theorem mem_settledIds {rules : RetryRules} {results : List RequestResult} {id : RowId} :
    id ∈ settledIds rules results ↔
      ∃ result ∈ results, (rules.disposition result).removesRows = true ∧ id ∈ result.ids := by
  simp only [settledIds, List.mem_flatMap]
  refine exists_congr fun result => and_congr_right fun _ => ?_
  split <;> simp [*]

end Emitter

/-! ### The answers to a page -/

theorem Request.ids_stamped (request : Request) (now : Int) :
    (request.stamped now).ids = request.ids := by
  simp [Request.ids, Request.stamped]

/-- Requests with what the transport answers to each, the first as number `index`. -/
def Transport.answers (transport : Transport) (now : Int) :
    (index : Nat) → List Request → List (Request × Answer)
  | _, [] => []
  | index, request :: rest =>
    (request, transport.answer index (request.stamped now)) ::
      transport.answers now (index + 1) rest

/-- The result that an answer to a request comes to. -/
def Answer.result? (request : Request) : Answer → Option RequestResult
  | .panicked => none
  | .returned result => some ⟨result.status, result.oversize || request.oversize, request.ids⟩

theorem Transport.answers_requests
    (transport : Transport) (now : Int) (index : Nat) (requests : List Request) :
    (transport.answers now index requests).map Prod.fst = requests := by
  induction requests generalizing index with
  | nil => rfl
  | cons request rest inductionHypothesis =>
      rw [answers, List.map_cons, inductionHypothesis]

theorem Transport.answers_ids
    (transport : Transport) (now : Int) (index : Nat) (requests : List Request) :
    ((transport.answers now index requests).flatMap fun answered => answered.1.ids) =
      requests.flatMap Request.ids := by
  rw [← List.flatMap_map, transport.answers_requests]

/-- Each request has an answer of the transport. -/
theorem Transport.answer_of_mem {transport : Transport} {now : Int} {index : Nat}
    {requests : List Request} {answered : Request × Answer}
    (member : answered ∈ transport.answers now index requests) :
    ∃ place, answered.2 = transport.answer place (answered.1.stamped now) := by
  induction requests generalizing index with
  | nil => cases member
  | cons request rest inductionHypothesis =>
      rcases List.mem_cons.mp member with rfl | inRest
      · exact ⟨index, rfl⟩
      · exact inductionHypothesis inRest

theorem Transport.outcomes_stamped
    (transport : Transport) (now : Int) (index : Nat) (requests : List Request) :
    transport.outcomes index (requests.map fun request => request.stamped now) =
      (transport.answers now index requests).filterMap fun answered =>
        answered.2.result? answered.1 := by
  induction requests generalizing index with
  | nil => rfl
  | cons request rest inductionHypothesis =>
      rw [List.map_cons, outcomes, inductionHypothesis, answers, List.filterMap_cons, outcome?]
      cases transport.answer index (request.stamped now) with
      | panicked => rfl
      | returned result =>
          simp only [Answer.result?, Option.toList_some, List.singleton_append,
            Request.ids_stamped]
          rfl

namespace Emitter

/-- The requests of a cycle that starts at an instant, with their answers. -/
def answersAt (emitter : Emitter) (transport : Transport) (now : Int) :
    List (Request × Answer) :=
  transport.answers now emitter.handed.length
    (emitter.requestsOf transport.method (emitter.pageAt now))

theorem requestsOf_ids_perm (emitter : Emitter) (method : DeliveryMethod)
    (page : List QueuedEvent) :
    ((emitter.requestsOf method page).flatMap Request.ids).Perm (page.map QueuedEvent.id) :=
  Request.ofEvents_ids_perm _ _ _ _

theorem answersAt_ids_perm (emitter : Emitter) (transport : Transport) (now : Int) :
    ((emitter.answersAt transport now).flatMap fun answered => answered.1.ids).Perm
      ((emitter.pageAt now).map QueuedEvent.id) := by
  rw [answersAt, Transport.answers_ids]
  exact emitter.requestsOf_ids_perm transport.method (emitter.pageAt now)

section Answered

variable {emitter : Emitter} {transport : Transport} {now : Int}

theorem ids_ne_nil_of_answered {answered : Request × Answer}
    (member : answered ∈ emitter.answersAt transport now) : answered.1.ids ≠ [] := by
  have isRequest : answered.1 ∈ (emitter.answersAt transport now).map Prod.fst :=
    List.mem_map_of_mem member
  rw [answersAt, Transport.answers_requests] at isRequest
  exact Request.ofEvents_nonempty isRequest

/-- A row that was pulled is in a request. -/
theorem answered_of_pulled (transport : Transport) {event : QueuedEvent}
    (pulled : event ∈ emitter.pageAt now) :
    ∃ answered ∈ emitter.answersAt transport now, event.id ∈ answered.1.ids := by
  have isRow : event.id ∈ (emitter.pageAt now).map QueuedEvent.id := List.mem_map_of_mem pulled
  rw [← (emitter.answersAt_ids_perm transport now).mem_iff] at isRow
  exact List.mem_flatMap.mp isRow

/-- A row in a request was pulled, and reading left it in the queue. -/
theorem row_of_answered {answered : Request × Answer} {id : RowId}
    (member : answered ∈ emitter.answersAt transport now) (inRequest : id ∈ answered.1.ids) :
    (∃ event ∈ emitter.pageAt now, event.id = id) ∧ ∃ row ∈ emitter.rowsAt now, row.id = id := by
  have isRow : id ∈ (emitter.pageAt now).map QueuedEvent.id := by
    rw [← (emitter.answersAt_ids_perm transport now).mem_iff]
    exact List.mem_flatMap.mpr ⟨answered, member, inRequest⟩
  have isLeft : id ∈ (emitter.rowsAt now).map StoredRow.id :=
    (emitter.pageAt_ids_sublist now).subset isRow
  exact ⟨List.mem_map.mp isRow, List.mem_map.mp isLeft⟩

/-- No two requests of a cycle carry the same row. -/
theorem answered_unique {first second : Request × Answer} {id : RowId}
    (inFirst : first ∈ emitter.answersAt transport now) (carriesFirst : id ∈ first.1.ids)
    (inSecond : second ∈ emitter.answersAt transport now) (carriesSecond : id ∈ second.1.ids) :
    first = second := by
  have nodup : ((emitter.answersAt transport now).flatMap fun answered => answered.1.ids).Nodup := by
    rw [(emitter.answersAt_ids_perm transport now).nodup_iff]
    exact (emitter.pageAt_ids_numbered now).nodup
  revert inFirst inSecond nodup
  generalize emitter.answersAt transport now = answers
  intro inFirst inSecond nodup
  induction answers with
  | nil => cases inFirst
  | cons answered rest inductionHypothesis =>
      rw [List.flatMap_cons, List.nodup_append] at nodup
      obtain ⟨_, restNodup, apart⟩ := nodup
      rcases List.mem_cons.mp inFirst with rfl | firstInRest <;>
        rcases List.mem_cons.mp inSecond with rfl | secondInRest
      · rfl
      · exact absurd rfl
          (apart id carriesFirst id (List.mem_flatMap.mpr ⟨second, secondInRest, carriesSecond⟩))
      · exact absurd rfl
          (apart id carriesSecond id (List.mem_flatMap.mpr ⟨first, firstInRest, carriesFirst⟩))
      · exact inductionHypothesis firstInRest secondInRest restNodup

end Answered

/-- The requests of a cycle that starts at an instant as they are handed over, the
latest first. -/
def handedAt (emitter : Emitter) (transport : Transport) (now : Int) : List Request :=
  ((emitter.requestsOf transport.method (emitter.pageAt now)).map fun request =>
    request.stamped now).reverse

theorem handedAt_ids_perm (emitter : Emitter) (transport : Transport) (now : Int) :
    ((emitter.handedAt transport now).flatMap Request.ids).Perm
      ((emitter.pageAt now).map QueuedEvent.id) := by
  refine List.Perm.trans ?_ (emitter.requestsOf_ids_perm transport.method (emitter.pageAt now))
  rw [handedAt, ← List.map_reverse, List.flatMap_map]
  simp only [Request.ids_stamped]
  exact (List.reverse_perm _).flatMap_right _

/-- A page was read and sent: what is known before it is settled. Sending calls the
queue for nothing, so the first arrivals follow the rows that reading left. -/
structure PageSent
    (emitter : Emitter) (transport : Transport) (now : Int) (arrivals : Arrivals)
    (reading : Emitter) (sent : SentPage) (sending : Emitter) : Prop where
  rows : emitter.queue.backend.HasRows (emitter.rowsAt now) reading.queue.backend
  queue : sending.queue = reading.queue.insertAll arrivals.afterReading
  config : sending.config = emitter.config
  paused : sending.paused = emitter.paused
  handed : sending.handed = emitter.handedAt transport now ++ emitter.handed
  attempted : sent.attempted = (emitter.pageAt now).length
  results : sent.results =
    (emitter.answersAt transport now).filterMap fun answered => answered.2.result? answered.1

theorem pageSent_of_read
    {emitter reading : Emitter} {now : Int} {page : List QueuedEvent}
    (transport : Transport) (arrivals : Arrivals)
    (read : emitter.readPage now = (some page, reading)) :
    emitter.PageSent transport now arrivals reading
      ((reading.accept arrivals.afterReading).sendPage transport now page).1
      ((reading.accept arrivals.afterReading).sendPage transport now page).2 := by
  rcases emitter.readPage_cases now with ⟨_, _, _, _, failed⟩ | ⟨queue, rows, isRead⟩
  · rw [failed] at read
    cases read
  · obtain ⟨isPage, rfl⟩ := Prod.mk.inj (isRead.symm.trans read)
    obtain rfl := Option.some.inj isPage
    have carried :=
      (emitter.requestsOf_ids_perm transport.method (emitter.pageAt now)).length_eq
    rw [List.length_map] at carried
    rw [sendPage, dispatch, Transport.outcomes_stamped]
    exact ⟨rows, rfl, rfl, rfl, rfl, carried, rfl⟩

end Emitter

end Telemetry

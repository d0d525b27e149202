import Mathlib.Data.List.Nodup
import Telemetry.Delivery.Message
import Telemetry.Proofs.Delivery.Cycle
import Telemetry.Proofs.Json.Values
import Telemetry.Proofs.Text.FormUrlEncoded
import Telemetry.Proofs.Tracker.Payload

/-!
Contract: what a collector confirms was in the message that it answered.

Owns:
- the payloads that can be read from a message, by its method;
- the rows of a request, each by its payload with the instant of sending;
- that rows leave the queue on a success only with their payloads in the message.

Does not own: how a message gets to a collector, and which requests are made.

A query holds one payload whatever the request carries, so what is said of queries rests
on single rows in the requests that are made for them.
-/

namespace Telemetry

/-! ### Payloads of a message -/

/-- The payload as it is stored, with the instant of sending in place of any other. -/
structure Payload.StampedAs (stored : Payload) (instant : Int) (sent : Payload) : Prop where
  stamp : sent.get? Keys.sentTimestamp = some (Decimal.integerText instant)
  others : ∀ key, key ≠ Keys.sentTimestamp → sent.get? key = stored.get? key

theorem Payload.stampedAs_insert (payload : Payload) (instant : Int) :
    payload.StampedAs instant
      (payload.insert Keys.sentTimestamp (Decimal.integerText instant)) :=
  ⟨payload.get?_insert_self (Decimal.integerText_isEmpty instant),
    fun _ differs => payload.get?_insert_of_ne differs.symm _⟩

/-- A payload nests one level and is read back from its text. -/
theorem Payload.legible_toJson (payload : Payload) (depth : Nat) :
    Json.Legible (depth + 1) payload.toJson := by
  refine .object (List.pairwise_map.mpr payload.ordered) fun member isMember => ?_
  obtain ⟨entry, _, rfl⟩ := List.mem_map.mp isMember
  exact .string entry.2

namespace HttpMessage

/-- The payloads that are read from a message: those of the list in its body, or the one
whose pairs are its query. -/
inductive Carries : HttpMessage → List Payload → Prop where
  | body {body : String} {payloads : List Payload} :
      Json.parse? body = some (.object [("data", .array (payloads.map Payload.toJson)),
        ("schema", .string Schemas.payloadData)]) →
      Carries ⟨.post, [], some "application/json", body⟩ payloads
  | query {query : List Char} {payload : Payload} :
      FormUrlEncoded.decode? query = some payload.entries →
      Carries ⟨.get, query, none, ""⟩ [payload]

theorem legible_bodyJson (payloads : List Payload) :
    Json.Legible Json.nestingLimit (bodyJson payloads) := by
  have data : Json.Legible (Json.nestingLimit - 1) (.array (payloads.map Payload.toJson)) := by
    refine .array fun item isItem => ?_
    obtain ⟨payload, _, rfl⟩ := List.mem_map.mp isItem
    exact payload.legible_toJson _
  refine .object (Entries.ordered_of_keys ["data", "schema"] rfl (by decide)) ?_
  simp only [List.forall_mem_cons, List.not_mem_nil, false_implies, implies_true, and_true]
  exact ⟨data, .string _⟩

theorem carries_post (request : Request) :
    (ofRequest .post request).Carries request.payloads :=
  .body (Json.parse?_text (legible_bodyJson request.payloads))

theorem carries_get {request : Request} {payload : Payload}
    (single : request.payloads = [payload]) : (ofRequest .get request).Carries [payload] := by
  rw [ofRequest, single]
  exact .query (FormUrlEncoded.decode?_encode payload.entries)

/-- The message carries these rows and no others, in their order. -/
def CarriesRows (message : HttpMessage) (instant : Int) (rows : List QueuedEvent) : Prop :=
  ∃ sent, message.Carries sent ∧
    List.Forall₂ (fun row payload => row.payload.StampedAs instant payload) rows sent

end HttpMessage

/-! ### Rows of a request -/

namespace Request

variable {method : DeliveryMethod} {capacity limit : Nat} {events : List QueuedEvent}
  {request : Request}

theorem payloads_stamped (request : Request) (instant : Int) :
    (request.stamped instant).payloads = request.events.map fun event =>
      event.payload.insert Keys.sentTimestamp (Decimal.integerText instant) := by
  rw [payloads, stamped, List.map_map]
  rfl

theorem stampedAs_payloads (request : Request) (instant : Int) :
    List.Forall₂ (fun row payload => row.payload.StampedAs instant payload) request.events
      (request.stamped instant).payloads := by
  rw [payloads_stamped, List.forall₂_map_right_iff, List.forall₂_same]
  exact fun event _ => event.payload.stampedAs_insert instant

/-- The message of a request carries its rows, as requests for queries have one row. -/
theorem carriesRows_of_mem (member : request ∈ ofEvents method capacity limit events)
    (instant : Int) :
    (HttpMessage.ofRequest method (request.stamped instant)).CarriesRows instant
      request.events := by
  refine ⟨(request.stamped instant).payloads, ?_, request.stampedAs_payloads instant⟩
  cases method with
  | post => exact HttpMessage.carries_post _
  | get =>
      obtain ⟨event, rfl⟩ := mem_ofEventsGet member
      rw [payloads_stamped]
      exact HttpMessage.carries_get (payloads_stamped _ instant)

theorem events_subset_of_mem (member : request ∈ ofEvents method capacity limit events) :
    request.events ⊆ events := fun _ inRequest =>
  (ofEvents_perm method capacity limit events).subset
    (List.mem_flatMap.mpr ⟨request, member, inRequest⟩)

end Request

/-! ### Rows of a cycle -/

namespace Emitter

variable {emitter : Emitter} {transport : Transport} {now : Int}

theorem request_of_answered {answered : Request × Answer}
    (member : answered ∈ emitter.answersAt transport now) :
    answered.1 ∈ emitter.requestsOf transport.method (emitter.pageAt now) := by
  have isRequest := List.mem_map_of_mem (f := Prod.fst) member
  rwa [answersAt, Transport.answers_requests] at isRequest

/-- A row of the queue that a request names is the row that the request carries. -/
theorem event_of_answered {answered : Request × Answer} {row : StoredRow}
    (member : answered ∈ emitter.answersAt transport now)
    (stored : row ∈ emitter.queue.backend.contents) (named : row.id ∈ answered.1.ids) :
    ∃ event ∈ answered.1.events, row.event? = some event := by
  obtain ⟨event, inRequest, sameId⟩ := List.mem_map.mp named
  have pulled : event ∈ emitter.pageAt now :=
    Request.events_subset_of_mem (request_of_answered member) inRequest
  obtain ⟨source, isKept, readAs⟩ := List.mem_filterMap.mp (List.mem_of_mem_take pulled)
  have sourceStored : source ∈ emitter.queue.backend.contents :=
    (Eviction.kept_sublist _ _ _).subset isKept
  have sourceId : source.id = row.id := (StoredRow.id_of_event? readAs).symm.trans sameId
  obtain rfl := List.inj_on_of_nodup_map emitter.queue.backend.numbered.nodup
    sourceStored stored sourceId
  exact ⟨event, inRequest, readAs⟩

/-- A row that a cycle takes from its page is in a request that has a final answer. -/
theorem removes_of_gone {arrivals : Arrivals} {report : CycleReport} {row : StoredRow}
    (reported : (emitter.cycle transport now arrivals).1 = some report)
    (left : row ∈ emitter.rowsAt now)
    (gone : row ∉ (emitter.cycle transport now arrivals).2.queue.backend.contents) :
    emitter.config.retry.Removes (emitter.answersAt transport now) row.id := by
  obtain ⟨page, reading, read⟩ : ∃ page reading, emitter.readPage now = (some page, reading) := by
    rcases emitter.readPage_cases now with ⟨_, _, _, _, failed⟩ | ⟨_, _, read⟩
    · rw [cycle, failed] at reported
      cases reported
    · exact ⟨_, _, read⟩
  obtain ⟨sent, sending, pageSent, _, _, settled⟩ := cycle_eq_settle transport arrivals read
  have stillThere : row ∈ (sending.accept arrivals.afterSending).queue.backend.contents := by
    obtain ⟨early, extendsFirst⟩ := reading.accept_extends arrivals.afterReading
    obtain ⟨late, extendsLast⟩ := sending.accept_extends arrivals.afterSending
    have first : (reading.accept arrivals.afterReading).queue = sending.queue :=
      pageSent.queue.symm
    rw [extendsLast.contents, ← first, extendsFirst.contents, pageSent.rows.contents]
    exact List.mem_append_left _ (List.mem_append_left _ left)
  rw [settled] at gone
  rcases settle_cases (sending.accept arrivals.afterSending) sent with
    ⟨_, _, unchanged⟩ | ⟨_, _, removed⟩
  · rw [unchanged.contents] at gone
    exact absurd stillThere gone
  · rw [removed.contents, List.mem_filter, not_and] at gone
    have settles := gone stillThere
    rw [decide_eq_true_eq, not_not, mem_settledIds_of_pageSent pageSent] at settles
    exact settles

end Emitter

/-- The message of every request carries the rows that the request names, each as it is
stored apart from the instant of sending: a query has the pairs of a single row, and a body
has the list of its rows. So a row leaves the queue either because its request was given up,
or on a success that was answered to its payload. -/
theorem confirmed_rows_were_carried :
    (∀ (method : DeliveryMethod) (capacity limit : Nat) (events : List QueuedEvent)
        (instant : Int), ∀ request ∈ Request.ofEvents method capacity limit events,
      ∃ rows, rows ⊆ events ∧ rows.map QueuedEvent.id = request.ids ∧
        ((events.map QueuedEvent.id).Nodup →
          ∀ event ∈ events, event.id ∈ request.ids → event ∈ rows) ∧
        (HttpMessage.ofRequest method (request.stamped instant)).method = method ∧
        (HttpMessage.ofRequest method (request.stamped instant)).CarriesRows instant rows) ∧
    ∀ (emitter : Emitter) (transport : Transport) (now : Int) (arrivals : Arrivals)
        (report : CycleReport), (emitter.cycle transport now arrivals).1 = some report →
      ∀ row ∈ emitter.rowsAt now,
        row ∉ (emitter.cycle transport now arrivals).2.queue.backend.contents →
        ∃ answered ∈ emitter.answersAt transport now, row.id ∈ answered.1.ids ∧
          (∃ place, answered.2 = transport.answer place (answered.1.stamped now)) ∧
          (emitter.config.retry.GivesUp answered.1 answered.2 ∨
            answered.2.Delivers ∧ ∃ rows event, event ∈ rows ∧ row.event? = some event ∧
              (HttpMessage.ofRequest transport.method
                (answered.1.stamped now)).CarriesRows now rows) := by
  constructor
  · intro method capacity limit events instant request member
    have fromEvents := Request.events_subset_of_mem member
    refine ⟨request.events, fromEvents, rfl, fun nodup event isEvent named => ?_, ?_,
      Request.carriesRows_of_mem member instant⟩
    · obtain ⟨carried, inRequest, sameId⟩ := List.mem_map.mp named
      obtain rfl := List.inj_on_of_nodup_map nodup (fromEvents inRequest) isEvent sameId
      exact inRequest
    · cases method <;> rfl
  · intro emitter transport now arrivals report reported row left gone
    obtain ⟨answered, member, named, final⟩ := Emitter.removes_of_gone reported left gone
    refine ⟨answered, member, named, Transport.answer_of_mem member, ?_⟩
    by_cases delivers : answered.2.Delivers
    · have stored := (emitter.rowsAt_sublist now).subset left
      obtain ⟨event, inRequest, readAs⟩ := Emitter.event_of_answered member stored named
      exact .inr ⟨delivers, answered.1.events, event, inRequest, readAs,
        Request.carriesRows_of_mem (Emitter.request_of_answered member) now⟩
    · exact .inl ⟨final, delivers⟩

/-- Two rows, the first of them stamped before, are confirmed together: both leave, and the
message that was answered carries them. -/
theorem two_confirmed_rows_were_carried :
    let rows := [(Payload.ofPairs [("e", "a \"b\""), ("stm", "1")], 0), (Payload.empty, 0)]
    let emitter : Emitter :=
      { toOutbox := .ofQueue (.insertAll ⟨.memory .empty, fun _ _ => false, 0⟩ rows) {}
        bus := .standard }
    let transport : Transport := ⟨.post, fun _ request => .returned (request.result (some 200))⟩
    (emitter.cycle transport 7 {}).1 = some { attempted := 2, sent := 2 } ∧
      (emitter.cycle transport 7 {}).2.queue.backend.contents = [] ∧
      ∀ row ∈ emitter.rowsAt 7, ∃ answered ∈ emitter.answersAt transport 7,
        answered.2.Delivers ∧ ∃ rows event, event ∈ rows ∧ row.event? = some event ∧
          (HttpMessage.ofRequest .post (answered.1.stamped 7)).CarriesRows 7 rows := by
  intro rows emitter transport
  have succeed : emitter.CallsSucceed transport 7 {} :=
    ⟨_, _, rfl, trivial, _, _, rfl, trivial, Emitter.removeRows_of_memory rfl rfl⟩
  obtain ⟨contents, counted, _⟩ := emitter.cycle_removes_final_rows transport 7 {} succeed
  have reported : (emitter.cycle transport 7 {}).1 = some { attempted := 2, sent := 2 } := by
    rw [counted]
    decide +kernel
  have emptied : (emitter.cycle transport 7 {}).2.queue.backend.contents = [] := by
    rw [contents]
    decide +kernel
  refine ⟨reported, emptied, fun row left => ?_⟩
  have gone : row ∉ (emitter.cycle transport 7 {}).2.queue.backend.contents := by
    rw [emptied]
    exact List.not_mem_nil
  obtain ⟨answered, member, _, ⟨place, isAnswer⟩, givesUp | carried⟩ :=
    confirmed_rows_were_carried.2 emitter transport 7 {} _ reported row left gone
  · rw [isAnswer] at givesUp
    exact absurd ⟨200, rfl, by decide⟩ givesUp.2
  · exact ⟨answered, member, carried⟩

end Telemetry

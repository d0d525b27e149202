import Telemetry.Delivery.Request

/-!
Contract: the requests that are made of events lose none, double none, and stay
within the bounds.

Owns:
- what a grouping of events is, for both methods;
- the invariant of the open group while a body is filled;
- that the requests of a page are a grouping of it.

Does not own: that the bound on the bytes covers the message that is sent, and
that there are no more requests than needed.
-/

namespace Telemetry

namespace Request

/-- An event that is over the limit even if it is sent alone. -/
def TooLarge (method : DeliveryMethod) (limit : Nat) (event : QueuedEvent) : Prop :=
  match method with
  | .get => limit < event.payload.text.utf8ByteSize + 22
  | .post => limit < event.payload.text.utf8ByteSize + 22 + 1 + 88

instance (method : DeliveryMethod) (limit : Nat) : DecidablePred (TooLarge method limit) :=
  fun event => by
    unfold TooLarge
    cases method <;> infer_instance

/-- What events cost in a body. -/
def groupBytes : List QueuedEvent → Nat
  | [] => 0
  | event :: rest => event.payload.text.utf8ByteSize + 23 + groupBytes rest

theorem groupBytes_append (first second : List QueuedEvent) :
    groupBytes (first ++ second) = groupBytes first + groupBytes second := by
  induction first with
  | nil => simp [groupBytes]
  | cons event rest inductionHypothesis =>
      simp only [List.cons_append, groupBytes, inductionHypothesis]
      omega

theorem le_groupBytes {event : QueuedEvent} {events : List QueuedEvent} (member : event ∈ events) :
    event.payload.text.utf8ByteSize + 23 ≤ groupBytes events := by
  induction member with
  | head rest => exact Nat.le_add_right _ _
  | tail other _ inductionHypothesis => exact Nat.le_trans inductionHypothesis (Nat.le_add_left _ _)

/-- Requests that carry events: each event once, none without events, and only an
event that is over the limit alone in a request that is marked so. A query carries
one event. A body carries the events that fit, in order, within both bounds. -/
structure IsGrouping
    (method : DeliveryMethod)
    (capacity limit : Nat)
    (events : List QueuedEvent)
    (requests : List Request) :
    Prop where
  rows : (requests.flatMap fun request => request.ids.zip request.payloads).Perm
    (events.map fun event => (event.id, event.payload))
  parallel : ∀ request ∈ requests, request.ids.length = request.payloads.length
  nonempty : ∀ request ∈ requests, request.ids ≠ []
  oversize : ∀ request ∈ requests,
    request.oversize = true ↔ ∃ event, request.events = [event] ∧ TooLarge method limit event
  isolated : ∀ request ∈ requests, ∀ event ∈ request.events,
    TooLarge method limit event → request.oversize = true
  query : method = .get →
    requests.flatMap Request.events = events ∧
      ∀ request ∈ requests, request.events.length = 1
  body : method = .post →
    ((requests.filter fun request => !request.oversize).flatMap Request.events =
        events.filter fun event => ¬TooLarge .post limit event) ∧
      ∀ request ∈ requests, request.oversize = false →
        request.events.length ≤ max capacity 1 ∧ groupBytes request.events + 88 ≤ limit

/-! ### Filling bodies -/

theorem ofGroup_events (group : List QueuedEvent) :
    (ofGroup group).flatMap Request.events = group := by
  cases group <;> simp [ofGroup]

/-- No event is lost or doubled. An event that is over the limit alone overtakes the
open group, so the order can change. -/
theorem ofEventsPost_perm
    (capacity limit : Nat)
    (group : List QueuedEvent)
    (bytes : Nat)
    (events : List QueuedEvent) :
    ((ofEventsPost capacity limit group bytes events).flatMap Request.events).Perm
      (group ++ events) := by
  fun_induction ofEventsPost capacity limit group bytes events with
  | case1 bytes group =>
      rw [ofGroup_events, List.append_nil]
  | case2 group bytes event rest size alone inductionHypothesis =>
      rw [List.flatMap_cons]
      exact (inductionHypothesis.cons event).trans List.perm_middle.symm
  | case3 group bytes event rest size fits full inductionHypothesis =>
      rw [List.flatMap_cons]
      exact inductionHypothesis.append_left group
  | case4 group bytes event rest size fits room inductionHypothesis =>
      simpa using inductionHypothesis

/-- What is known of the open group: its bytes were counted, and it keeps the
bounds as it stands. -/
structure OpenGroup (capacity limit : Nat) (group : List QueuedEvent) (bytes : Nat) : Prop where
  counted : bytes = groupBytes group
  capacity : group.length ≤ capacity
  limit : group ≠ [] → bytes + wrapperBytes ≤ limit

theorem openGroup_nil (capacity limit : Nat) : OpenGroup capacity limit [] 0 :=
  ⟨rfl, Nat.zero_le _, fun nonempty => absurd rfl nonempty⟩

/-- A request of a body that is filled, or an event that is over the limit alone. -/
structure Filled (capacity limit : Nat) (request : Request) : Prop where
  nonempty : request.events ≠ []
  alone : request.oversize = true → ∃ event, request.events = [event] ∧ TooLarge .post limit event
  bounded : request.oversize = false →
    request.events.length ≤ capacity ∧ groupBytes request.events + 88 ≤ limit

theorem OpenGroup.filled
    {capacity limit bytes : Nat}
    {group : List QueuedEvent}
    (isOpen : OpenGroup capacity limit group bytes)
    (nonempty : group ≠ []) :
    Filled capacity limit ⟨group, false⟩ := by
  refine ⟨nonempty, nofun, fun _ => ⟨isOpen.capacity, ?_⟩⟩
  rw [← isOpen.counted]
  exact isOpen.limit nonempty

/-- Every request keeps the bounds, by induction over the events with the open
group as the invariant. -/
theorem ofEventsPost_filled
    (capacity limit : Nat)
    (positive : 0 < capacity)
    (group : List QueuedEvent)
    (bytes : Nat)
    (events : List QueuedEvent)
    (isOpen : OpenGroup capacity limit group bytes) :
    ∀ request ∈ ofEventsPost capacity limit group bytes events, Filled capacity limit request := by
  fun_induction ofEventsPost capacity limit group bytes events with
  | case1 bytes group =>
      intro request member
      cases group with
      | nil => simp [ofGroup] at member
      | cons event rest =>
          simp only [ofGroup, List.isEmpty_cons, Bool.false_eq_true, if_false,
            List.mem_singleton] at member
          rw [member]
          exact isOpen.filled (List.cons_ne_nil _ _)
  | case2 group bytes event rest size alone inductionHypothesis =>
      intro request member
      rcases List.mem_cons.mp member with rfl | inRest
      · exact ⟨List.cons_ne_nil _ _, fun _ => ⟨event, rfl, alone⟩, nofun⟩
      · exact inductionHypothesis isOpen request inRest
  | case3 group bytes event rest size fits full inductionHypothesis =>
      have nonempty : group ≠ [] := by
        intro isNil
        simp [isNil] at full
      have reopened : OpenGroup capacity limit [event] size :=
        ⟨rfl, positive, fun _ => Nat.le_of_not_lt fits⟩
      intro request member
      rcases List.mem_cons.mp member with rfl | inRest
      · exact isOpen.filled nonempty
      · exact inductionHypothesis reopened request inRest
  | case4 group bytes event rest size fits room inductionHypothesis =>
      have cost : size = event.payload.text.utf8ByteSize + 23 := rfl
      have withinBoth : group = [] ∨
          group.length < capacity ∧ bytes + size + wrapperBytes ≤ limit := by
        simp only [Bool.and_eq_true, Bool.not_eq_true', Bool.or_eq_true, decide_eq_true_eq,
          not_and, not_or, Nat.not_le, Nat.not_lt] at room
        by_cases isNil : group = []
        · exact .inl isNil
        · exact .inr (room (by simpa using isNil))
      apply inductionHypothesis
      rcases withinBoth with rfl | ⟨shorter, lighter⟩
      · have nothing : bytes = 0 := isOpen.counted
        refine ⟨?_, positive, fun _ => ?_⟩
        · simp [groupBytes, cost, nothing]
        · rw [nothing, Nat.zero_add]
          exact Nat.le_of_not_lt fits
      · refine ⟨?_, ?_, fun _ => lighter⟩
        · simp [groupBytes_append, groupBytes, cost, isOpen.counted]
        · simpa using Nat.succ_le_of_lt shorter

/-- The events that fit keep their order. -/
theorem ofEventsPost_fitting
    (capacity limit : Nat)
    (group : List QueuedEvent)
    (bytes : Nat)
    (events : List QueuedEvent) :
    ((ofEventsPost capacity limit group bytes events).filter
        fun request => !request.oversize).flatMap Request.events =
      group ++ events.filter fun event => ¬TooLarge .post limit event := by
  fun_induction ofEventsPost capacity limit group bytes events with
  | case1 bytes group =>
      cases group <;> simp [ofGroup]
  | case2 group bytes event rest size alone inductionHypothesis =>
      have tooLarge : TooLarge .post limit event := alone
      simpa [tooLarge] using inductionHypothesis
  | case3 group bytes event rest size fits full inductionHypothesis =>
      have notTooLarge : ¬TooLarge .post limit event := fits
      simpa [notTooLarge] using inductionHypothesis
  | case4 group bytes event rest size fits room inductionHypothesis =>
      have notTooLarge : ¬TooLarge .post limit event := fits
      simpa [notTooLarge] using inductionHypothesis

/-- In a request within the bounds no event is over the limit alone. -/
theorem Filled.isolated
    {capacity limit : Nat}
    {request : Request}
    (filled : Filled capacity limit request)
    {event : QueuedEvent}
    (member : event ∈ request.events)
    (tooLarge : TooLarge .post limit event) :
    request.oversize = true := by
  cases marked : request.oversize with
  | true => rfl
  | false =>
      have within := (filled.bounded marked).2
      have part := le_groupBytes member
      simp only [TooLarge] at tooLarge
      omega

/-! ### Both methods -/

theorem zip_ids_payloads (request : Request) :
    request.ids.zip request.payloads =
      request.events.map fun event => (event.id, event.payload) := by
  rw [ids, payloads, List.zip_map']

/-- Requests that carry the events in some order carry their rows. -/
theorem rows_of_perm
    {requests : List Request}
    {events : List QueuedEvent}
    (permutation : (requests.flatMap Request.events).Perm events) :
    (requests.flatMap fun request => request.ids.zip request.payloads).Perm
      (events.map fun event => (event.id, event.payload)) := by
  have carried := permutation.map fun event => (event.id, event.payload)
  rw [List.map_flatMap] at carried
  simpa only [zip_ids_payloads] using carried

theorem parallel (request : Request) : request.ids.length = request.payloads.length := by
  rw [ids, payloads, List.length_map, List.length_map]

theorem ofEventsGet_events (limit : Nat) (events : List QueuedEvent) :
    (ofEventsGet limit events).flatMap Request.events = events := by
  rw [ofEventsGet, List.flatMap_map]
  exact List.flatMap_singleton' events

theorem mem_ofEventsGet
    {limit : Nat}
    {events : List QueuedEvent}
    {request : Request}
    (member : request ∈ ofEventsGet limit events) :
    ∃ event, request = ⟨[event], decide (limit < queryBytes event)⟩ := by
  obtain ⟨event, _, made⟩ := List.mem_map.mp member
  exact ⟨event, made.symm⟩

/-- The requests carry every event once. -/
theorem ofEvents_perm
    (method : DeliveryMethod)
    (capacity limit : Nat)
    (events : List QueuedEvent) :
    ((ofEvents method capacity limit events).flatMap Request.events).Perm events := by
  cases method with
  | get => exact List.Perm.of_eq (ofEventsGet_events limit events)
  | post => exact ofEventsPost_perm _ limit [] 0 events

/-- The rows of the requests are the rows of the events. -/
theorem ofEvents_ids_perm
    (method : DeliveryMethod)
    (capacity limit : Nat)
    (events : List QueuedEvent) :
    ((ofEvents method capacity limit events).flatMap Request.ids).Perm
      (events.map QueuedEvent.id) := by
  have carried := (ofEvents_perm method capacity limit events).map QueuedEvent.id
  rwa [List.map_flatMap] at carried

theorem ofEvents_nonempty
    {method : DeliveryMethod}
    {capacity limit : Nat}
    {events : List QueuedEvent}
    {request : Request}
    (member : request ∈ ofEvents method capacity limit events) :
    request.ids ≠ [] := by
  cases method with
  | get =>
      obtain ⟨event, rfl⟩ := mem_ofEventsGet member
      exact List.cons_ne_nil _ _
  | post =>
      have filled := ofEventsPost_filled (max capacity 1) limit (by omega) [] 0 events
        (openGroup_nil _ _) request member
      simpa [ids] using filled.nonempty

/-- The requests that are made of events are a grouping of them. -/
theorem ofEvents_isGrouping
    (method : DeliveryMethod)
    (capacity limit : Nat)
    (events : List QueuedEvent) :
    IsGrouping method capacity limit events (ofEvents method capacity limit events) := by
  cases method with
  | get =>
      refine ⟨rows_of_perm (ofEvents_perm _ _ _ _), fun request _ => parallel request,
        fun _ => ofEvents_nonempty, ?_, ?_, fun _ => ⟨ofEventsGet_events limit events, ?_⟩, nofun⟩
      · intro request member
        obtain ⟨event, rfl⟩ := mem_ofEventsGet member
        refine ⟨fun marked => ⟨event, rfl, of_decide_eq_true marked⟩, ?_⟩
        rintro ⟨other, isOther, tooLarge⟩
        rw [List.singleton_inj.mp isOther.symm] at tooLarge
        exact decide_eq_true tooLarge
      · intro request member event inRequest tooLarge
        obtain ⟨only, rfl⟩ := mem_ofEventsGet member
        rw [List.mem_singleton.mp inRequest] at tooLarge
        exact decide_eq_true tooLarge
      · intro request member
        obtain ⟨event, rfl⟩ := mem_ofEventsGet member
        rfl
  | post =>
      have filled := ofEventsPost_filled (max capacity 1) limit (by omega) [] 0 events
        (openGroup_nil _ _)
      refine ⟨rows_of_perm (ofEvents_perm _ _ _ _), fun request _ => parallel request,
        fun _ => ofEvents_nonempty, ?_, ?_, nofun,
        fun _ => ⟨ofEventsPost_fitting _ _ [] 0 events, fun request member =>
          (filled request member).bounded⟩⟩
      · intro request member
        refine ⟨(filled request member).alone, ?_⟩
        rintro ⟨event, isOnly, tooLarge⟩
        exact (filled request member).isolated (by simp [isOnly]) tooLarge
      · intro request member event inRequest tooLarge
        exact (filled request member).isolated inRequest tooLarge

end Request

end Telemetry

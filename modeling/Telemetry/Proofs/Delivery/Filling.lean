import Mathlib.Data.List.Chain
import Mathlib.Order.Bounds.Basic
import Telemetry.Proofs.Delivery.Grouping

/-!
Contract: bodies are filled, so no cut of the events into bodies needs fewer.

Owns:
- what a cut of events into bodies is;
- that a cut which skips leading events needs no more groups;
- the comparison of the greedy grouping with every cut, and the first event that did not
  fit into the body before it.

Does not own: that the requests carry every event once, and the bytes that are really sent.
-/

namespace Telemetry

namespace Request

/-- A body has room for the events. -/
structure FitsBody (capacity limit : Nat) (group : List QueuedEvent) : Prop where
  capacity : group.length ≤ capacity
  limit : groupBytes group + 88 ≤ limit

/-- Consecutive events are cut into groups, each for one body. -/
structure IsCut
    (capacity limit : Nat)
    (events : List QueuedEvent)
    (groups : List (List QueuedEvent)) :
    Prop where
  flatten : groups.flatten = events
  nonempty : ∀ group ∈ groups, group ≠ []
  fits : ∀ group ∈ groups, FitsBody capacity limit group

/-- The requests that carry what fits. -/
def bodies (requests : List Request) : List Request :=
  requests.filter fun request => !request.oversize

/-- The first event of a body would have broken a bound of the body before it. -/
def StartsPast (capacity limit : Nat) (earlier later : Request) : Prop :=
  ∃ event rest, later.events = event :: rest ∧ ¬FitsBody capacity limit (earlier.events ++ [event])

section Cuts

variable {capacity limit : Nat} {events : List QueuedEvent} {groups : List (List QueuedEvent)}

theorem FitsBody.left
    {front back : List QueuedEvent}
    (fits : FitsBody capacity limit (front ++ back)) :
    FitsBody capacity limit front := by
  obtain ⟨capacity, limit⟩ := fits
  rw [List.length_append] at capacity
  rw [groupBytes_append] at limit
  exact ⟨by omega, by omega⟩

theorem FitsBody.right
    {front back : List QueuedEvent}
    (fits : FitsBody capacity limit (front ++ back)) :
    FitsBody capacity limit back := by
  obtain ⟨capacity, limit⟩ := fits
  rw [List.length_append] at capacity
  rw [groupBytes_append] at limit
  exact ⟨by omega, by omega⟩

theorem IsCut.tail
    {first : List QueuedEvent}
    {others : List (List QueuedEvent)}
    (cut : IsCut capacity limit events (first :: others)) :
    IsCut capacity limit others.flatten others :=
  ⟨rfl, fun group member => cut.nonempty group (List.mem_cons_of_mem _ member),
    fun group member => cut.fits group (List.mem_cons_of_mem _ member)⟩

/-- Without leading events the groups of a cut still do. The group in which they end loses
its front. -/
theorem IsCut.drop
    {front : List QueuedEvent}
    (cut : IsCut capacity limit (front ++ events) groups) :
    ∃ fewer, IsCut capacity limit events fewer ∧ fewer.length ≤ groups.length := by
  induction groups generalizing front with
  | nil =>
      have nothing : front ++ events = [] := cut.flatten.symm
      refine ⟨[], ⟨(List.append_eq_nil_iff.mp nothing).2.symm, by simp, by simp⟩, Nat.le_refl _⟩
  | cons first others inductionHypothesis =>
      have othersCut := cut.tail
      have parts : first ++ others.flatten = front ++ events := cut.flatten
      rcases List.append_eq_append_iff.mp parts with
        ⟨between, rfl, isRest⟩ | ⟨kept, isFirst, rfl⟩
      · rw [isRest] at othersCut
        obtain ⟨fewer, fewerCut, shorter⟩ := inductionHypothesis othersCut
        exact ⟨fewer, fewerCut, Nat.le_succ_of_le shorter⟩
      · by_cases isNil : kept = []
        · subst isNil
          exact ⟨others, othersCut, Nat.le_succ _⟩
        · have fits : FitsBody capacity limit (front ++ kept) := by
            rw [← isFirst]
            exact cut.fits first List.mem_cons_self
          exact ⟨kept :: others, ⟨rfl, List.forall_mem_cons.mpr ⟨isNil, othersCut.nonempty⟩,
            List.forall_mem_cons.mpr ⟨fits.right, othersCut.fits⟩⟩, Nat.le_refl _⟩

/-- No cut gets past a full group with its first group. -/
theorem IsCut.pastFull
    {group : List QueuedEvent}
    {event : QueuedEvent}
    (cut : IsCut capacity limit (group ++ event :: events) groups)
    (full : ¬FitsBody capacity limit (group ++ [event])) :
    ∃ fewer, IsCut capacity limit (event :: events) fewer ∧ fewer.length < groups.length := by
  cases groups with
  | nil => exact absurd cut.flatten.symm (by simp)
  | cons first others =>
      have othersCut := cut.tail
      have parts : first ++ others.flatten = group ++ event :: events := cut.flatten
      have reaches : ∃ between, others.flatten = between ++ event :: events := by
        rcases List.append_eq_append_iff.mp parts with
          ⟨between, _, isRest⟩ | ⟨more, isFirst, isRest⟩
        · exact ⟨between, isRest⟩
        · cases more with
          | nil => exact ⟨[], isRest.symm⟩
          | cons next more =>
              -- The first group would carry the full group and the event after it.
              obtain ⟨rfl, _⟩ := List.cons.inj isRest
              have fits := cut.fits first List.mem_cons_self
              rw [isFirst, List.append_cons] at fits
              exact absurd fits.left full
      obtain ⟨between, isRest⟩ := reaches
      rw [isRest] at othersCut
      obtain ⟨fewer, fewerCut, shorter⟩ := othersCut.drop
      exact ⟨fewer, fewerCut, Nat.lt_succ_of_le shorter⟩

end Cuts

/-! ### The open group against a cut -/

theorem groupBytes_concat (group : List QueuedEvent) (event : QueuedEvent) :
    groupBytes (group ++ [event]) = groupBytes group + bodyBytes event := by
  rw [groupBytes_append]
  rfl

/-- The open group is closed only before an event that it has no room for. -/
theorem not_fitsBody_of_full
    {capacity limit bytes : Nat}
    {group : List QueuedEvent}
    {event : QueuedEvent}
    (counted : bytes = groupBytes group)
    (full : (!group.isEmpty &&
      (decide (capacity ≤ group.length) ||
        decide (limit < bytes + bodyBytes event + wrapperBytes))) = true) :
    ¬FitsBody capacity limit (group ++ [event]) := by
  rintro ⟨shorter, lighter⟩
  simp only [Bool.and_eq_true, Bool.or_eq_true, decide_eq_true_eq] at full
  rw [List.length_append, List.length_singleton] at shorter
  rw [groupBytes_concat, ← counted] at lighter
  have wrapper : wrapperBytes = 88 := rfl
  omega

theorem bodies_cons_oversize (events : List QueuedEvent) (requests : List Request) :
    bodies (⟨events, true⟩ :: requests) = bodies requests := rfl

theorem bodies_cons_body (events : List QueuedEvent) (requests : List Request) :
    bodies (⟨events, false⟩ :: requests) = ⟨events, false⟩ :: bodies requests := rfl

/-- The greedy grouping needs at most as many bodies as a cut of the open group and the
events that fit. An event over the limit cuts nothing. -/
theorem length_bodies_le
    {capacity limit bytes : Nat}
    {group events : List QueuedEvent}
    (counted : bytes = groupBytes group) :
    ∀ groups,
      IsCut capacity limit
        (group ++ events.filter fun event => ¬TooLarge .post limit event) groups →
      (bodies (ofEventsPost capacity limit group bytes events)).length ≤ groups.length := by
  fun_induction ofEventsPost capacity limit group bytes events with
  | case1 bytes group =>
      intro groups cut
      cases group with
      | nil => exact Nat.zero_le _
      | cons event rest =>
          cases groups with
          | nil => exact absurd cut.flatten.symm (by simp)
          | cons first others => exact Nat.succ_le_succ (Nat.zero_le _)
  | case2 group bytes event rest size alone inductionHypothesis =>
      intro groups cut
      have tooLarge : TooLarge .post limit event := alone
      rw [List.filter_cons_of_neg (by simpa using tooLarge)] at cut
      rw [bodies_cons_oversize]
      exact inductionHypothesis counted groups cut
  | case3 group bytes event rest size fits full inductionHypothesis =>
      intro groups cut
      have notTooLarge : ¬TooLarge .post limit event := fits
      rw [List.filter_cons_of_pos (by simpa using notTooLarge)] at cut
      obtain ⟨fewer, fewerCut, shorter⟩ := cut.pastFull (not_fitsBody_of_full counted full)
      rw [bodies_cons_body, List.length_cons]
      exact Nat.lt_of_le_of_lt (inductionHypothesis rfl fewer fewerCut) shorter
  | case4 group bytes event rest size fits room inductionHypothesis =>
      intro groups cut
      have notTooLarge : ¬TooLarge .post limit event := fits
      rw [List.filter_cons_of_pos (by simpa using notTooLarge), List.append_cons] at cut
      refine inductionHypothesis ?_ groups cut
      rw [groupBytes_concat, ← counted]

/-- The first body starts with the open group. -/
theorem bodies_eq_cons
    {capacity limit bytes : Nat}
    {group events : List QueuedEvent}
    (nonempty : group ≠ []) :
    ∃ more others, bodies (ofEventsPost capacity limit group bytes events) =
      ⟨group ++ more, false⟩ :: others := by
  fun_induction ofEventsPost capacity limit group bytes events with
  | case1 bytes group =>
      cases group with
      | nil => exact absurd rfl nonempty
      | cons event rest => exact ⟨[], [], by simp [ofGroup, bodies]⟩
  | case2 group bytes event rest size alone inductionHypothesis =>
      rw [bodies_cons_oversize]
      exact inductionHypothesis nonempty
  | case3 group bytes event rest size fits full inductionHypothesis =>
      exact ⟨[], _, by rw [bodies_cons_body, List.append_nil]⟩
  | case4 group bytes event rest size fits room inductionHypothesis =>
      obtain ⟨more, others, isCons⟩ := inductionHypothesis (by simp)
      exact ⟨event :: more, others, by rw [isCons, ← List.append_cons]⟩

/-- Each body starts with an event that the body before it had no room for. -/
theorem bodies_isChain
    {capacity limit bytes : Nat}
    {group events : List QueuedEvent}
    (counted : bytes = groupBytes group) :
    (bodies (ofEventsPost capacity limit group bytes events)).IsChain
      (StartsPast capacity limit) := by
  fun_induction ofEventsPost capacity limit group bytes events with
  | case1 bytes group =>
      cases group with
      | nil => exact List.isChain_nil
      | cons event rest => exact List.isChain_singleton _
  | case2 group bytes event rest size alone inductionHypothesis =>
      rw [bodies_cons_oversize]
      exact inductionHypothesis counted
  | case3 group bytes event rest size fits full inductionHypothesis =>
      have later := inductionHypothesis rfl
      obtain ⟨more, others, isCons⟩ :
          ∃ more others, bodies (ofEventsPost capacity limit [event] size rest) =
            ⟨event :: more, false⟩ :: others :=
        bodies_eq_cons (List.cons_ne_nil event [])
      rw [isCons] at later
      rw [bodies_cons_body, isCons]
      exact List.isChain_cons_cons.mpr
        ⟨⟨event, more, rfl, not_fitsBody_of_full counted full⟩, later⟩
  | case4 group bytes event rest size fits room inductionHypothesis =>
      refine inductionHypothesis ?_
      rw [groupBytes_concat, ← counted]

/-! ### All events -/

/-- The bodies are themselves a cut of the events that fit. -/
theorem isCut_bodies (capacity limit : Nat) (events : List QueuedEvent) :
    IsCut (max capacity 1) limit (events.filter fun event => ¬TooLarge .post limit event)
      ((bodies (ofEvents .post capacity limit events)).map Request.events) := by
  have grouping := ofEvents_isGrouping .post capacity limit events
  obtain ⟨inOrder, bounded⟩ := grouping.body rfl
  refine ⟨?_, ?_, ?_⟩
  · rw [← List.flatMap_def]
    exact inOrder
  · refine List.forall_mem_map.mpr fun request member isNil => ?_
    exact grouping.nonempty request (List.mem_filter.mp member).1 (by simp [ids, isNil])
  · refine List.forall_mem_map.mpr fun request member => ?_
    obtain ⟨isRequest, unmarked⟩ := List.mem_filter.mp member
    obtain ⟨few, light⟩ := bounded request isRequest (by simpa using unmarked)
    exact ⟨few, light⟩

/-- Of all cuts of the events that fit, the bodies are one with the fewest groups; and each
body starts with an event that the body before it had no room for. -/
theorem bodies_are_fewest (capacity limit : Nat) (events : List QueuedEvent) :
    IsLeast
        {count | ∃ groups,
          IsCut (max capacity 1) limit
            (events.filter fun event => ¬TooLarge .post limit event) groups ∧
          groups.length = count}
        (bodies (ofEvents .post capacity limit events)).length ∧
      (bodies (ofEvents .post capacity limit events)).IsChain
        (StartsPast (max capacity 1) limit) := by
  refine ⟨⟨⟨_, isCut_bodies capacity limit events, List.length_map _⟩, ?_⟩, ?_⟩
  · rintro count ⟨groups, cut, rfl⟩
    exact length_bodies_le rfl groups cut
  · exact bodies_isChain rfl

end Request

end Telemetry

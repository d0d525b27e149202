import Telemetry.Proofs.Queue.Contents

/-!
Contract: what a call on an event queue does when it succeeds and when it fails.

Owns:
- a refused or failing call leaves the rows alone;
- inserts put new numbers at the end, whether or not all of them succeed;
- the rows of a series of inserts that all succeed.

Does not own: which calls are refused.
-/

namespace Telemetry

namespace QueueBackend

/-- One queue is another with new rows at its end. -/
structure Extends (before : QueueBackend) (added : List StoredRow) (after : QueueBackend) :
    Prop where
  contents : after.contents = before.contents ++ added
  fresh : ∀ row ∈ added, before.lastId < row.id
  last : before.lastId ≤ after.lastId
  held : after.held = before.held

theorem extends_self (backend : QueueBackend) : backend.Extends [] backend :=
  ⟨(List.append_nil _).symm, by simp, Int.le_refl _, rfl⟩

theorem Extends.trans
    {first second third : QueueBackend}
    {added more : List StoredRow}
    (left : first.Extends added second)
    (right : second.Extends more third) :
    first.Extends (added ++ more) third := by
  constructor
  · rw [right.contents, left.contents, List.append_assoc]
  · intro row member
    rcases List.mem_append.mp member with inLeft | inRight
    · exact left.fresh row inLeft
    · exact Int.lt_of_le_of_lt left.last (right.fresh row inRight)
  · exact Int.le_trans left.last right.last
  · rw [right.held, left.held]

/-- New rows have numbers that no row had before. -/
theorem Extends.mem_contents
    {before after : QueueBackend}
    {added : List StoredRow}
    (extended : before.Extends added after)
    {row : StoredRow}
    (member : row ∈ after.contents)
    (old : row.id ≤ before.lastId) :
    row ∈ before.contents := by
  rw [extended.contents] at member
  rcases List.mem_append.mp member with inBefore | inAdded
  · exact inBefore
  · exact absurd (extended.fresh row inAdded) (Int.not_lt.mpr old)

end QueueBackend

namespace EventQueue

theorem guarded_cases
    {α : Type}
    (queue : EventQueue)
    (call : QueueCall)
    (act : QueueBackend → Except QueueError (α × QueueBackend)) :
    (∃ cause, queue.guarded call act = (.error cause, queue.called)) ∨
      ∃ answer backend, act queue.backend = .ok (answer, backend) ∧
        queue.guarded call act = (.ok answer, { queue.called with backend := backend }) := by
  unfold guarded
  split
  · exact .inl ⟨outage, rfl⟩
  · split
    · next cause _ => exact .inl ⟨cause, rfl⟩
    · next answer backend acted => exact .inr ⟨answer, backend, acted, rfl⟩

theorem emittable_cases (queue : EventQueue) (limit : Nat) :
    (∃ cause, queue.emittable limit = (.error cause, queue.called)) ∨
      ∃ backend,
        queue.backend.HasRows (afterReading limit queue.backend.contents) backend ∧
        queue.emittable limit =
          (.ok (firstEvents limit queue.backend.contents), { queue.called with backend }) := by
  rcases queue.guarded_cases .read fun backend => backend.emittable limit with
    failed | ⟨page, backend, acted, answered⟩
  · exact .inl failed
  · obtain ⟨rfl, rows⟩ := QueueBackend.emittable_ok acted
    exact .inr ⟨backend, rows, answered⟩

theorem remove_cases (queue : EventQueue) (ids : List RowId) :
    (∃ cause, queue.remove ids = (.error cause, queue.called)) ∨
      ∃ removed backend,
        queue.backend.HasRows (queue.backend.contents.filter fun row => row.id ∉ ids) backend ∧
        queue.remove ids = (.ok removed, { queue.called with backend }) := by
  rcases queue.guarded_cases .remove fun backend => backend.remove ids with
    failed | ⟨removed, backend, acted, answered⟩
  · exact .inl failed
  · exact .inr ⟨removed, backend, QueueBackend.remove_ok acted, answered⟩

theorem evict_cases (queue : EventQueue) (eviction : Eviction) (now : Int) :
    (∃ cause, queue.evict eviction now = (.error cause, queue.called)) ∨
      ∃ removed backend,
        queue.backend.HasRows (eviction.kept now queue.backend.contents) backend ∧
        queue.evict eviction now = (.ok removed, { queue.called with backend }) := by
  rcases queue.guarded_cases .evict fun backend => backend.evict eviction now with
    failed | ⟨removed, backend, acted, answered⟩
  · exact .inl failed
  · exact .inr ⟨removed, backend, QueueBackend.evict_ok acted, answered⟩

theorem insert_cases (queue : EventQueue) (payload : Payload) (instant : Int) :
    (∃ cause, queue.insert payload instant = (.error cause, queue.called)) ∨
      ∃ backend,
        queue.backend.Extends
          [⟨queue.backend.lastId + 1, queue.backend.held payload, instant⟩] backend ∧
        backend.lastId = queue.backend.lastId + 1 ∧
        queue.insert payload instant =
          (.ok (queue.backend.lastId + 1), { queue.called with backend }) := by
  rcases queue.guarded_cases .insert fun backend => backend.insert payload instant with
    failed | ⟨id, backend, acted, answered⟩
  · exact .inl failed
  · obtain ⟨rfl, last, held, contents⟩ := QueueBackend.insert_ok acted
    have later : queue.backend.lastId < queue.backend.lastId + 1 :=
      Int.lt_add_one_of_le (Int.le_refl _)
    refine .inr ⟨backend, ⟨contents, ?_, ?_, held⟩, last, answered⟩
    · intro row member
      rw [List.mem_singleton.mp member]
      exact later
    · rw [last]
      exact Int.le_of_lt later

theorem insertAll_extends (queue : EventQueue) (arrived : List (Payload × Int)) :
    ∃ added, queue.backend.Extends added (queue.insertAll arrived).backend := by
  induction arrived generalizing queue with
  | nil => exact ⟨[], queue.backend.extends_self⟩
  | cons row rest inductionHypothesis =>
      obtain ⟨more, restExtends⟩ := inductionHypothesis (queue.insert row.1 row.2).2
      rcases queue.insert_cases row.1 row.2 with ⟨_, failed⟩ | ⟨backend, extended, _, inserted⟩
      · rw [failed] at restExtends
        exact ⟨more, by rw [insertAll, List.foldl_cons, failed]; exact restExtends⟩
      · rw [inserted] at restExtends
        exact ⟨_, by
          rw [insertAll, List.foldl_cons, inserted]
          exact extended.trans restExtends⟩

/-- Every one of some inserts succeeds. -/
def TakesAll : EventQueue → List (Payload × Int) → Prop
  | _, [] => True
  | queue, row :: rest =>
    (∃ id, (queue.insert row.1 row.2).1 = .ok id) ∧ TakesAll (queue.insert row.1 row.2).2 rest

end EventQueue

/-- The rows of payloads that are inserted after number `last`. -/
def insertedRows (held : Payload → RowContent) :
    (last : RowId) → List (Payload × Int) → List StoredRow
  | _, [] => []
  | last, row :: rest => ⟨last + 1, held row.1, row.2⟩ :: insertedRows held (last + 1) rest

theorem insertedRows_append
    (held : Payload → RowContent)
    (last : RowId)
    (first second : List (Payload × Int)) :
    insertedRows held last (first ++ second) =
      insertedRows held last first ++ insertedRows held (last + first.length) second := by
  induction first generalizing last with
  | nil => simp [insertedRows]
  | cons row rest inductionHypothesis =>
      simp only [List.cons_append, insertedRows, inductionHypothesis, List.length_cons]
      congr 3
      push_cast
      rw [Int.add_assoc, Int.add_comm 1]

theorem insertedRows_fresh
    (held : Payload → RowContent)
    (last : RowId)
    (arrived : List (Payload × Int)) :
    ∀ row ∈ insertedRows held last arrived, last < row.id := by
  induction arrived generalizing last with
  | nil => simp [insertedRows]
  | cons first rest inductionHypothesis =>
      have next : last < last + 1 := Int.lt_add_one_of_le (Int.le_refl _)
      intro row member
      rcases List.mem_cons.mp member with rfl | inRest
      · exact next
      · exact Int.lt_trans next (inductionHypothesis _ row inRest)

theorem EventQueue.insertAll_of_takesAll
    (queue : EventQueue)
    (arrived : List (Payload × Int))
    (takes : queue.TakesAll arrived) :
    (queue.insertAll arrived).backend.contents =
        queue.backend.contents ++ insertedRows queue.backend.held queue.backend.lastId arrived ∧
      (queue.insertAll arrived).backend.lastId = queue.backend.lastId + arrived.length ∧
      (queue.insertAll arrived).backend.held = queue.backend.held := by
  induction arrived generalizing queue with
  | nil => simp [insertAll, insertedRows]
  | cons row rest inductionHypothesis =>
      obtain ⟨⟨id, succeeds⟩, restTakes⟩ := takes
      rcases queue.insert_cases row.1 row.2 with
        ⟨_, failed⟩ | ⟨backend, extended, next, inserted⟩
      · rw [failed] at succeeds
        cases succeeds
      · rw [inserted] at restTakes
        obtain ⟨contents, last, held⟩ := inductionHypothesis _ restTakes
        rw [insertAll, List.foldl_cons, inserted]
        refine ⟨contents.trans ?_, last.trans ?_, held.trans extended.held⟩
        · simp only [extended.contents, extended.held, next, insertedRows, List.append_assoc,
            List.singleton_append]
        · simp only [next, List.length_cons]
          push_cast
          rw [Int.add_assoc, Int.add_comm 1]

end Telemetry

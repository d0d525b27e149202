import Mathlib.Data.List.DropRight
import Telemetry.Proofs.Json.Written
import Telemetry.Proofs.Queue.Contents

/-!
Contract: memory and a table are the same queue.

Owns:
- the plain queue that both are: rows in the order of their numbers, and the number that
  was used last;
- the steps of a user, and what they answer;
- one law for each step and each kind of queue, and from them the answers to every series
  of steps.

Does not own: outages, and rows that no queue inserted.
-/

namespace Telemetry

/-! ### The plain queue -/

/-- Rows in the order of their numbers, none from before the epoch, and the number that was
used last. -/
structure PlainQueue where
  rows : List QueueRow
  lastId : RowId
  numbered : Numbered (rows.map QueueRow.id) lastId
  dated : ∀ row ∈ rows, 0 ≤ row.insertedAt

/-- What a user does with a queue. An insert takes its instant from a wall clock or is given
one; an eviction reads the clock. -/
inductive QueueStep where
  | insert (payload : Payload) (wall : Int)
  | insertAt (payload : Payload) (instant : Nat)
  | emittable (limit : Nat)
  | remove (ids : List RowId)
  | removeAll
  | count
  | evict (eviction : Eviction) (wall : Int)

/-- What a step answers: the number of the new row, the events that were read, or a count
of rows. -/
inductive QueueAnswer where
  | inserted (id : RowId)
  | events (events : List QueuedEvent)
  | removed (count : Nat)
  | counted (count : Nat)
deriving DecidableEq, Repr

namespace PlainQueue

def empty : PlainQueue := ⟨[], 0, .nil, nofun⟩

/-- Appends a payload under the next number. -/
def insertAt (queue : PlainQueue) (payload : Payload) (instant : Int) (dated : 0 ≤ instant) :
    PlainQueue where
  rows := queue.rows ++ [⟨queue.lastId + 1, payload, instant⟩]
  lastId := queue.lastId + 1
  numbered := by simpa using queue.numbered.append_next
  dated := by
    intro row member
    rcases List.mem_append.mp member with old | new
    · exact queue.dated row old
    · rw [List.mem_singleton.mp new]
      exact dated

/-- Keeps some of the rows; the number that was used last stays. -/
def keeping (queue : PlainQueue) (kept : List QueueRow) (sub : kept.Sublist queue.rows) :
    PlainQueue where
  rows := kept
  lastId := queue.lastId
  numbered := queue.numbered.sublist (sub.map QueueRow.id)
  dated := fun row member => queue.dated row (sub.subset member)

/-- The rows of the last `maxAge` milliseconds, and of these the last `maxRows`. -/
def kept (eviction : Eviction) (now : Int) (rows : List QueueRow) : List QueueRow :=
  let young := rows.filter fun row =>
    eviction.maxAge.all fun (maxAge : Nat) => decide (now - maxAge ≤ row.insertedAt)
  eviction.maxRows.elim young young.rtake

theorem kept_sublist (eviction : Eviction) (now : Int) (rows : List QueueRow) :
    (kept eviction now rows).Sublist rows := by
  unfold kept
  cases eviction.maxRows with
  | none => exact List.filter_sublist
  | some most => exact (List.drop_sublist _ _).trans List.filter_sublist

def step (queue : PlainQueue) : QueueStep → QueueAnswer × PlainQueue
  | .insert payload wall =>
    (.inserted (queue.lastId + 1),
      queue.insertAt payload (Time.nowMillis wall) (Time.nowMillis_nonneg wall))
  | .insertAt payload instant =>
    (.inserted (queue.lastId + 1), queue.insertAt payload instant (Int.natCast_nonneg instant))
  | .emittable limit => (.events ((queue.rows.take limit).map QueueRow.event), queue)
  | .remove ids =>
    (.removed (queue.rows.filter fun row => row.id ∈ ids).length,
      queue.keeping (queue.rows.filter fun row => row.id ∉ ids) List.filter_sublist)
  | .removeAll => (.removed queue.rows.length, queue.keeping [] (List.nil_sublist _))
  | .count => (.counted queue.rows.length, queue)
  | .evict eviction wall =>
    let rows := kept eviction (Time.nowMillis wall) queue.rows
    (.removed (queue.rows.length - rows.length), queue.keeping rows (kept_sublist _ _ _))

/-- The answers to a series of steps, and the queue after it. -/
def run (queue : PlainQueue) : List QueueStep → List QueueAnswer × PlainQueue
  | [] => ([], queue)
  | first :: rest =>
    let (answer, next) := queue.step first
    let (answers, last) := next.run rest
    (answer :: answers, last)

end PlainQueue

/-! ### Steps on either kind of queue -/

namespace QueueStep

/-- A removal names no more rows than one statement can. -/
def FitsStatement : QueueStep → Prop
  | .remove ids => ids.length ≤ TableQueue.statementLimit
  | _ => True

instance (step : QueueStep) : Decidable step.FitsStatement := by
  unfold FitsStatement
  split <;> infer_instance

end QueueStep

namespace QueueBackend

def step (backend : QueueBackend) : QueueStep → Except QueueError (QueueAnswer × QueueBackend)
  | .insert payload wall =>
    (backend.insert payload (Time.nowMillis wall)).map fun (id, after) => (.inserted id, after)
  | .insertAt payload instant =>
    (backend.insert payload instant).map fun (id, after) => (.inserted id, after)
  | .emittable limit =>
    (backend.emittable limit).map fun (events, after) => (.events events, after)
  | .remove ids => (backend.remove ids).map fun (removed, after) => (.removed removed, after)
  | .removeAll => backend.removeAll.map fun (removed, after) => (.removed removed, after)
  | .count => backend.count.map fun count => (.counted count, backend)
  | .evict eviction wall =>
    (backend.evict eviction (Time.nowMillis wall)).map fun (removed, after) =>
      (.removed removed, after)

/-- The answers to a series of steps, and the queue after it. A step that fails changes
nothing. -/
def run (backend : QueueBackend) :
    List QueueStep → List (Except QueueError QueueAnswer) × QueueBackend
  | [] => ([], backend)
  | first :: rest =>
    match backend.step first with
    | .ok (answer, next) =>
      let (answers, last) := next.run rest
      (.ok answer :: answers, last)
    | .error cause =>
      let (answers, last) := backend.run rest
      (.error cause :: answers, last)

/-- The second queue is of the kind of the first, and its table is there. -/
def Continues : QueueBackend → QueueBackend → Prop
  | .memory _, .memory _ => True
  | .table _, .table after => after.stored.isSome
  | _, _ => False

/-- A statement of this kind of queue can name the rows of a step. -/
def Allows : QueueBackend → QueueStep → Prop
  | .memory _, _ => True
  | .table _, step => step.FitsStatement

/-- How the queue keeps a row. -/
def keptAs (backend : QueueBackend) (row : QueueRow) : StoredRow :=
  ⟨row.id, backend.held row.payload, row.insertedAt⟩

/-- A queue keeps the rows of a plain queue, and goes on with the same number. -/
structure Holds (backend : QueueBackend) (plain : PlainQueue) : Prop where
  contents : backend.contents = plain.rows.map backend.keptAs
  lastId : backend.lastId = plain.lastId
  present : backend.Continues backend

theorem event?_keptAs (backend : QueueBackend) (row : QueueRow) :
    (backend.keptAs row).event? = some row.event := by
  cases backend with
  | memory queue => rfl
  | table queue =>
      simp only [keptAs, held, StoredRow.event?, Payload.parse?_text, Option.map_some]
      rfl

end QueueBackend

/-! ### A table that is there answers -/

namespace TableQueue

theorem insert_total {queue : TableQueue} (present : queue.stored.isSome) (payload : Payload)
    (instant : Int) :
    ∃ id after, queue.insert payload instant = .ok (id, after) ∧ after.stored.isSome := by
  obtain ⟨_ | stored, lastId, numbered⟩ := queue
  · cases present
  · exact ⟨_, _, rfl, rfl⟩

theorem delete_total {queue : TableQueue} (present : queue.stored.isSome) {ids : List RowId}
    (fits : ids.length ≤ statementLimit) :
    ∃ after, queue.delete ids = .ok (queue.rows.length - after.rows.length, after) ∧
      after.stored.isSome := by
  unfold delete
  split
  · next absent =>
    rw [absent] at present
    cases present
  · next stored isStored =>
    rw [if_neg (Nat.not_lt.mpr fits), rows_of_stored isStored]
    simp only [Except.ok.injEq, Prod.mk.injEq]
    refine ⟨_, ⟨?_, rfl⟩, rfl⟩
    rw [rows_keeping, Array.length_toList, Array.length_toList]

theorem remove_total {queue : TableQueue} (present : queue.stored.isSome) {ids : List RowId}
    (fits : ids.length ≤ statementLimit) :
    ∃ after, queue.remove ids = .ok (queue.rows.length - after.rows.length, after) ∧
      after.stored.isSome := by
  unfold remove
  split
  · exact ⟨queue, by rw [Nat.sub_self], present⟩
  · exact delete_total present fits

theorem removeAll_total {queue : TableQueue} (present : queue.stored.isSome) :
    ∃ after, queue.removeAll = .ok (queue.rows.length, after) ∧ after.rows = [] ∧
      after.lastId = queue.lastId ∧ after.stored.isSome := by
  obtain ⟨stored, isStored⟩ := Option.isSome_iff_exists.mp present
  unfold removeAll
  split
  · next absent =>
    rw [absent] at present
    cases present
  · next found isFound =>
    rw [rows_of_stored isFound]
    exact ⟨_, rfl, rfl, rfl, rfl⟩

theorem count_total {queue : TableQueue} (present : queue.stored.isSome) :
    queue.count = .ok queue.rows.length := by
  unfold count
  split
  · next absent =>
    rw [absent] at present
    cases present
  · next stored isStored =>
    rw [rows_of_stored isStored]
    rfl

theorem evict_total {queue : TableQueue} (present : queue.stored.isSome) (eviction : Eviction)
    (now : Int) :
    ∃ after, queue.evict eviction now = .ok (queue.rows.length - after.rows.length, after) ∧
      after.stored.isSome := by
  unfold evict
  split
  · exact ⟨queue, by rw [Nat.sub_self], present⟩
  · split
    · next absent =>
      rw [absent] at present
      cases present
    · next stored isStored =>
      rw [rows_of_stored isStored]
      simp only [Except.ok.injEq, Prod.mk.injEq]
      refine ⟨_, ⟨?_, rfl⟩, rfl⟩
      rw [rows_keeping, Array.length_toList, Array.length_toList]

/-- Reading deletes nothing if every row can be read. -/
theorem emittable_total {queue : TableQueue} (present : queue.stored.isSome) {limit : Nat}
    (readable : unreadableIds limit queue.rows = []) :
    ∃ page, queue.emittable limit = .ok (page, queue) := by
  unfold emittable
  split
  · next absent =>
    rw [absent] at present
    cases present
  · next stored isStored =>
    rw [if_pos (by rw [readPages_unreadable, ← rows_of_stored isStored, readable]; rfl)]
    exact ⟨_, rfl⟩

/-- Reading answers if one statement can name the unreadable rows that it meets. -/
theorem emittable_of_few {queue : TableQueue} (present : queue.stored.isSome) {limit : Nat}
    (few : (unreadableIds limit queue.rows).length ≤ statementLimit) :
    ∃ page after, queue.emittable limit = .ok (page, after) ∧ after.stored.isSome := by
  obtain ⟨stored, isStored⟩ := Option.isSome_iff_exists.mp present
  rw [rows_of_stored isStored, ← readPages_unreadable] at few
  unfold emittable
  rw [isStored]
  simp only
  split
  · exact ⟨_, queue, rfl, present⟩
  · obtain ⟨after, deleted, stays⟩ := delete_total present few
    exact ⟨_, after, by rw [deleted]; rfl, stays⟩

/-- Reading fails if it meets more unreadable rows than one statement can name. -/
theorem emittable_of_many {queue : TableQueue} (present : queue.stored.isSome) {limit : Nat}
    (many : statementLimit < (unreadableIds limit queue.rows).length) :
    queue.emittable limit = .error .tooManyRows := by
  obtain ⟨stored, isStored⟩ := Option.isSome_iff_exists.mp present
  rw [rows_of_stored isStored, ← readPages_unreadable] at many
  have some : (readPages stored.toList limit).unreadable.isEmpty = false := by
    rw [List.isEmpty_eq_false_iff]
    exact List.ne_nil_of_length_pos (Nat.lt_of_le_of_lt (Nat.zero_le _) many)
  unfold emittable
  rw [isStored]
  simp only [some, Bool.false_eq_true, if_false]
  unfold delete
  split
  · next absent => simp [absent] at isStored
  · rw [if_pos many]
    rfl

end TableQueue

/-! ### Either kind of queue answers -/

/-- Nothing is unreadable among rows that can be read. -/
theorem unreadableIds_of_readable (want : Nat) (rows : List TableRow)
    (readable : ∀ row ∈ rows, row.event?.isSome) : unreadableIds want rows = [] := by
  fun_induction unreadableIds want rows with
  | case1 => rfl
  | case2 => rfl
  | case3 want row rest _ _ inductionHypothesis =>
      exact inductionHypothesis fun other member => readable other (List.mem_cons_of_mem _ member)
  | case4 want row rest unreadable _ =>
      have isSome := readable row (by simp)
      rw [unreadable] at isSome
      cases isSome

namespace QueueBackend

variable {backend after : QueueBackend} {plain : PlainQueue}

theorem Continues.present (continues : backend.Continues after) : after.Continues after := by
  cases backend <;> cases after <;> first | exact continues | cases continues

theorem Continues.allows (continues : backend.Continues after) {step : QueueStep}
    (allowed : backend.Allows step) : after.Allows step := by
  cases backend <;> cases after <;> first | exact allowed | cases continues

theorem length_contents (backend : QueueBackend) :
    backend.contents.length = match backend with
      | .memory queue => queue.rows.length
      | .table queue => queue.rows.length := by
  cases backend <;> exact List.length_map _

theorem insert_total (present : backend.Continues backend) (payload : Payload) (instant : Int) :
    ∃ id after, backend.insert payload instant = .ok (id, after) ∧ backend.Continues after := by
  cases backend with
  | memory queue => exact ⟨_, _, rfl, trivial⟩
  | table queue =>
      obtain ⟨id, after, inserted, stays⟩ := TableQueue.insert_total present payload instant
      exact ⟨id, .table after, by rw [insert, inserted]; rfl, stays⟩

theorem remove_total (present : backend.Continues backend) {ids : List RowId}
    (allowed : backend.Allows (.remove ids)) :
    ∃ after, backend.remove ids =
        .ok (backend.contents.length - after.contents.length, after) ∧
      backend.Continues after := by
  cases backend with
  | memory queue =>
      refine ⟨.memory (queue.remove ids).2, ?_, trivial⟩
      rw [length_contents, length_contents]
      rfl
  | table queue =>
      obtain ⟨after, removed, stays⟩ := TableQueue.remove_total present allowed
      refine ⟨.table after, ?_, stays⟩
      rw [length_contents, length_contents, remove, removed]
      rfl

theorem removeAll_total (present : backend.Continues backend) :
    ∃ after, backend.removeAll = .ok (backend.contents.length, after) ∧
      backend.HasRows [] after ∧ backend.Continues after := by
  cases backend with
  | memory queue =>
      refine ⟨.memory queue.removeAll.2, ?_, ⟨rfl, rfl, rfl⟩, trivial⟩
      rw [length_contents]
      rfl
  | table queue =>
      obtain ⟨after, removed, empty, last, stays⟩ := TableQueue.removeAll_total present
      refine ⟨.table after, ?_, ⟨?_, last, rfl⟩, stays⟩
      · rw [length_contents, removeAll, removed]
        rfl
      · rw [contents, empty]
        rfl

theorem count_total (present : backend.Continues backend) :
    backend.count = .ok backend.contents.length := by
  rw [length_contents]
  cases backend with
  | memory queue => rfl
  | table queue => exact TableQueue.count_total present

theorem evict_total (present : backend.Continues backend) (eviction : Eviction) (now : Int) :
    ∃ after, backend.evict eviction now =
        .ok (backend.contents.length - after.contents.length, after) ∧
      backend.Continues after := by
  cases backend with
  | memory queue =>
      refine ⟨.memory (queue.evict eviction now).2, ?_, trivial⟩
      rw [length_contents, length_contents]
      rfl
  | table queue =>
      obtain ⟨after, removed, stays⟩ := TableQueue.evict_total present eviction now
      refine ⟨.table after, ?_, stays⟩
      rw [length_contents, length_contents, evict, removed]
      rfl

theorem emittable_total (present : backend.Continues backend) (limit : Nat)
    (readable : ∀ row ∈ backend.contents, row.event?.isSome) :
    ∃ page, backend.emittable limit = .ok (page, backend) := by
  cases backend with
  | memory queue => exact ⟨_, rfl⟩
  | table queue =>
      have noneUnreadable := unreadableIds_of_readable limit queue.rows fun row member =>
        readable row.asStored (List.mem_map_of_mem member)
      obtain ⟨page, read⟩ := TableQueue.emittable_total present noneUnreadable
      exact ⟨page, by rw [emittable, read]; rfl⟩

/-! ### The steps of both kinds are those of the plain queue -/

theorem keptAs_of_held (same : after.held = backend.held) : after.keptAs = backend.keptAs := by
  funext row
  rw [keptAs, keptAs, same]

theorem Holds.of_hasRows
    (holds : backend.Holds plain)
    {kept : List QueueRow}
    (sub : kept.Sublist plain.rows)
    (rows : backend.HasRows (kept.map backend.keptAs) after)
    (continues : backend.Continues after) :
    after.Holds (plain.keeping kept sub) where
  contents := by
    rw [rows.contents, keptAs_of_held rows.held]
    rfl
  lastId := rows.lastId.trans holds.lastId
  present := continues.present

theorem Holds.insert
    (holds : backend.Holds plain)
    (payload : Payload)
    (instant : Int)
    (dated : 0 ≤ instant) :
    ∃ after, backend.insert payload instant = .ok (plain.lastId + 1, after) ∧
      backend.Continues after ∧ after.Holds (plain.insertAt payload instant dated) := by
  obtain ⟨id, after, inserted, continues⟩ := insert_total holds.present payload instant
  obtain ⟨isNext, last, held, contents⟩ := insert_ok inserted
  rw [isNext, holds.lastId] at inserted
  refine ⟨after, inserted, continues, ?_, ?_, continues.present⟩
  · rw [contents, holds.contents, isNext, holds.lastId, keptAs_of_held held,
      PlainQueue.insertAt, List.map_append]
    rfl
  · rw [last, isNext, holds.lastId]
    rfl

/-- The two bounds on the age of a row agree: a row is never from before the epoch, so no
instant and no span that is cut off makes a difference. -/
theorem keepsAge_eq
    (eviction : Eviction)
    (wall instant : Int)
    (dated : 0 ≤ instant) :
    eviction.keepsAge (Time.nowMillis wall) instant =
      eviction.maxAge.all fun (maxAge : Nat) => decide (Time.nowMillis wall - maxAge ≤ instant) := by
  have notNegative := Time.nowMillis_nonneg wall
  have atMost := Time.nowMillis_le wall
  unfold Eviction.keepsAge
  cases eviction.maxAge with
  | none => rfl
  | some maxAge =>
      simp only [Option.all_some, decide_eq_decide]
      simp only [Eviction.cutoff, Time.clampInstant, Time.spanMillis, Time.greatestInstant,
        Time.leastInstant, Int.ofNat_eq_natCast] at *
      omega

theorem kept_map_keptAs (backend : QueueBackend) (plain : PlainQueue) (eviction : Eviction)
    (wall : Int) :
    eviction.kept (Time.nowMillis wall) (plain.rows.map backend.keptAs) =
      (PlainQueue.kept eviction (Time.nowMillis wall) plain.rows).map backend.keptAs := by
  have young : (plain.rows.filter fun row =>
      eviction.keepsAge (Time.nowMillis wall) row.insertedAt) =
        plain.rows.filter fun row => eviction.maxAge.all fun (maxAge : Nat) =>
          decide (Time.nowMillis wall - maxAge ≤ row.insertedAt) :=
    List.filter_congr fun row member => keepsAge_eq eviction wall _ (plain.dated row member)
  rw [Eviction.kept, List.filter_map, Eviction.latest_map]
  refine congrArg (List.map backend.keptAs) ?_
  rw [show (plain.rows.filter ((fun row : StoredRow =>
      eviction.keepsAge (Time.nowMillis wall) row.insertedAt) ∘ backend.keptAs)) = _ from young]
  unfold Eviction.latest PlainQueue.kept
  cases eviction.maxRows <;> rfl

/-- A step on either kind of queue answers what it answers on the plain queue. -/
theorem Holds.step
    (holds : backend.Holds plain)
    {step : QueueStep}
    (allowed : backend.Allows step) :
    ∃ after, backend.step step = .ok ((plain.step step).1, after) ∧
      backend.Continues after ∧ after.Holds (plain.step step).2 := by
  have length : backend.contents.length = plain.rows.length := by
    rw [holds.contents, List.length_map]
  cases step with
  | insert payload wall =>
      obtain ⟨after, inserted, continues, next⟩ :=
        holds.insert payload (Time.nowMillis wall) (Time.nowMillis_nonneg wall)
      exact ⟨after, by rw [QueueBackend.step, inserted]; rfl, continues, next⟩
  | insertAt payload instant =>
      obtain ⟨after, inserted, continues, next⟩ :=
        holds.insert payload instant (Int.natCast_nonneg instant)
      exact ⟨after, by rw [QueueBackend.step, inserted]; rfl, continues, next⟩
  | emittable limit =>
      have readable : ∀ row ∈ backend.contents, row.event?.isSome := by
        intro row member
        rw [holds.contents] at member
        obtain ⟨source, _, rfl⟩ := List.mem_map.mp member
        rw [event?_keptAs]
        rfl
      obtain ⟨page, read⟩ := emittable_total holds.present limit readable
      have isPage : page = (plain.rows.take limit).map QueueRow.event := by
        rw [(emittable_ok read).1, firstEvents, holds.contents, List.filterMap_map,
          List.map_take, ← List.filterMap_eq_map]
        congr 1
        exact List.filterMap_congr fun row _ => backend.event?_keptAs row
      exact ⟨backend, by rw [QueueBackend.step, read, isPage]; rfl, holds.present, holds⟩
  | remove ids =>
      obtain ⟨after, removed, continues⟩ := remove_total holds.present allowed
      have rows : backend.HasRows
          ((plain.rows.filter fun row => row.id ∉ ids).map backend.keptAs) after := by
        have others := remove_ok removed
        rw [holds.contents, List.filter_map] at others
        exact others
      have count : backend.contents.length - after.contents.length =
          (plain.rows.filter fun row => row.id ∈ ids).length := by
        have parts := plain.rows.length_eq_length_filter_add fun row => decide (row.id ∈ ids)
        rw [length, rows.contents, List.length_map, parts]
        simp only [decide_not, Nat.add_sub_cancel]
      refine ⟨after, by rw [QueueBackend.step, removed, count]; rfl, continues, ?_⟩
      exact holds.of_hasRows List.filter_sublist rows continues
  | removeAll =>
      obtain ⟨after, removed, rows, continues⟩ := removeAll_total holds.present
      refine ⟨after, by rw [QueueBackend.step, removed, length]; rfl, continues, ?_⟩
      exact holds.of_hasRows (List.nil_sublist _) rows continues
  | count =>
      exact ⟨backend, by rw [QueueBackend.step, count_total holds.present, length]; rfl,
        holds.present, holds⟩
  | evict eviction wall =>
      obtain ⟨after, removed, continues⟩ :=
        evict_total holds.present eviction (Time.nowMillis wall)
      have rows := evict_ok removed
      rw [holds.contents, kept_map_keptAs] at rows
      have count : after.contents.length =
          (PlainQueue.kept eviction (Time.nowMillis wall) plain.rows).length := by
        rw [rows.contents, List.length_map]
      refine ⟨after, by rw [QueueBackend.step, removed, length, count]; rfl, continues, ?_⟩
      exact holds.of_hasRows (PlainQueue.kept_sublist _ _ _) rows continues

/-- So do the steps of a run, one after the other. -/
theorem Holds.run
    (holds : backend.Holds plain)
    {steps : List QueueStep}
    (allowed : ∀ step ∈ steps, backend.Allows step) :
    (backend.run steps).1 = (plain.run steps).1.map Except.ok ∧
      (backend.run steps).2.Holds (plain.run steps).2 := by
  induction steps generalizing backend plain with
  | nil => exact ⟨rfl, holds⟩
  | cons step rest inductionHypothesis =>
      obtain ⟨after, stepped, continues, next⟩ := holds.step (allowed step (by simp))
      obtain ⟨answers, last⟩ := inductionHypothesis next fun other member =>
        continues.allows (allowed other (List.mem_cons_of_mem _ member))
      simp only [QueueBackend.run, stepped, PlainQueue.run, List.map_cons, answers, true_and]
      exact last

end QueueBackend

/-! ### Every series of steps -/

/-- The number of the row that a step added. -/
def QueueAnswer.inserted? : QueueAnswer → Option RowId
  | .inserted id => some id
  | _ => none

namespace PlainQueue

/-- Only an insert uses a number, and it uses the next one. -/
theorem step_inserted (queue : PlainQueue) (step : QueueStep) :
    ((queue.step step).1.inserted? = none ∧ (queue.step step).2.lastId = queue.lastId) ∨
      ((queue.step step).1.inserted? = some (queue.lastId + 1) ∧
        (queue.step step).2.lastId = queue.lastId + 1) := by
  cases step with
  | insert payload wall => exact .inr ⟨rfl, rfl⟩
  | insertAt payload instant => exact .inr ⟨rfl, rfl⟩
  | emittable limit => exact .inl ⟨rfl, rfl⟩
  | remove ids => exact .inl ⟨rfl, rfl⟩
  | removeAll => exact .inl ⟨rfl, rfl⟩
  | count => exact .inl ⟨rfl, rfl⟩
  | evict eviction wall => exact .inl ⟨rfl, rfl⟩

/-- No number is used twice, whatever was removed meanwhile. -/
theorem run_inserted (queue : PlainQueue) (steps : List QueueStep) :
    ((queue.run steps).1.filterMap QueueAnswer.inserted?).Pairwise (· < ·) ∧
      ∀ id ∈ (queue.run steps).1.filterMap QueueAnswer.inserted?, queue.lastId < id := by
  induction steps generalizing queue with
  | nil => exact ⟨List.Pairwise.nil, nofun⟩
  | cons step rest inductionHypothesis =>
      obtain ⟨ascending, above⟩ := inductionHypothesis (queue.step step).2
      rw [run]
      rcases queue.step_inserted step with ⟨noNumber, last⟩ | ⟨number, last⟩
      · rw [List.filterMap_cons_none noNumber, ← last]
        exact ⟨ascending, above⟩
      · have later : queue.lastId < queue.lastId + 1 := Int.lt_succ _
        rw [List.filterMap_cons_some number]
        rw [last] at above
        refine ⟨List.pairwise_cons.mpr ⟨above, ascending⟩, ?_⟩
        intro id member
        rcases List.mem_cons.mp member with rfl | inRest
        · exact later
        · exact Int.lt_trans later (above id inRest)

end PlainQueue

/-- Memory and a table answer every series of steps as the plain queue does, and then hold
its rows: memory always, and a table if each removal fits one statement. No number is used
twice. -/
theorem queues_agree (steps : List QueueStep) :
    let plain := PlainQueue.empty.run steps
    let memory := (QueueBackend.memory .empty).run steps
    let table := (QueueBackend.table .empty).run steps
    (memory.1 = plain.1.map Except.ok ∧ memory.2.Holds plain.2) ∧
      ((∀ step ∈ steps, step.FitsStatement) →
        table.1 = plain.1.map Except.ok ∧ table.2.Holds plain.2) ∧
      (plain.1.filterMap QueueAnswer.inserted?).Pairwise (· < ·) := by
  have memoryHolds : (QueueBackend.memory .empty).Holds .empty := ⟨rfl, rfl, trivial⟩
  have tableHolds : (QueueBackend.table .empty).Holds .empty := ⟨rfl, rfl, rfl⟩
  refine ⟨memoryHolds.run fun _ _ => trivial, ?_, (PlainQueue.empty.run_inserted steps).1⟩
  exact fun fit => tableHolds.run fit

/-- A removal that names a row twice and one that is not there, an eviction by age and
number, and numbers that go on after all rows were removed. -/
theorem queues_agree_after_removals :
    let payload := Payload.ofPairs [("e", "pv")]
    let steps : List QueueStep :=
      [.insert payload (-5), .insertAt payload 120000, .remove [1, 7, 1],
        .insert payload 200000, .insert payload 200000,
        .evict { maxRows := some 1, maxAge := some 60000 } 200000,
        .emittable 18446744073709551615, .removeAll, .insert payload 200000]
    (∀ step ∈ steps, step.FitsStatement) ∧
      ((QueueBackend.table .empty).run steps).1 =
        [.inserted 1, .inserted 2, .removed 1, .inserted 3, .inserted 4, .removed 2,
          .events [⟨4, payload⟩], .removed 1, .inserted 5].map Except.ok := by
  intro payload steps
  have fit : ∀ step ∈ steps, step.FitsStatement := by decide
  have answers : (PlainQueue.empty.run steps).1 =
      [.inserted 1, .inserted 2, .removed 1, .inserted 3, .inserted 4, .removed 2,
        .events [⟨4, payload⟩], .removed 1, .inserted 5] := by
    decide
  have agrees := ((queues_agree steps).2.1 fit).1
  rw [answers] at agrees
  exact ⟨fit, agrees⟩

end Telemetry

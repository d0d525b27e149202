import Telemetry.Database
import Telemetry.Proofs.Queue.Agreement

/-!
Contract: payloads come back from their text, and from the queue that keeps the text.

Owns:
- the value that wins among pairs with one key;
- the length of a payload's text in bytes;
- what a queue has after a step, a run or the reopening of its database: rows that it had,
  and rows with new numbers;
- reading back a payload that was inserted and is still there.

Does not own: the reader and the writer of texts, and outages.
-/

namespace Telemetry

/-! ### Pairs with equal keys -/

/-- The value of the last pair with the key. -/
def lastValue? (pairs : List (String × String)) (key : String) : Option String :=
  ((pairs.filter fun pair => pair.1 = key).getLast?).map Prod.snd

/-- By induction with the last pair last, as it is inserted last. -/
theorem get?_ofPairs (pairs : List (String × String)) (key : String) :
    (Entries.ofPairs pairs).get? key = lastValue? pairs key := by
  induction pairs using List.reverseRecOn with
  | nil => rfl
  | append_singleton pairs pair inductionHypothesis =>
      have collected : Entries.ofPairs (pairs ++ [pair]) =
          (Entries.ofPairs pairs).insert pair.1 pair.2 := by
        rw [Entries.ofPairs, List.foldl_append]
        rfl
      rw [collected, Entries.get?_insert, inductionHypothesis, lastValue?, lastValue?,
        List.filter_append]
      by_cases same : pair.1 = key
      · rw [if_pos same, List.filter_cons_of_pos (by simp [same]), List.filter_nil,
          List.getLast?_concat]
        rfl
      · rw [if_neg same, List.filter_cons_of_neg (by simp [same]), List.filter_nil,
          List.append_nil]

namespace Payload

/-- An object of pairs in the order in which they are given. -/
def pairsText (pairs : List (String × String)) : String :=
  String.ofList (Json.enclosed '\x7b' '\x7d' (pairs.map writtenEntry))

/-- The keys of a payload that was read have the values of the last pairs. -/
theorem get?_of_parse? {text : String} {payload : Payload} (parsed : parse? text = some payload) :
    ∃ pairs, Json.readAll? readPairs text = some pairs ∧
      ∀ key, payload.get? key = lastValue? pairs key := by
  obtain ⟨pairs, read, rfl⟩ := Option.map_eq_some_iff.mp parsed
  exact ⟨pairs, read, get?_ofPairs pairs⟩

theorem parse?_pairsText (pairs : List (String × String)) :
    ∃ payload, parse? (pairsText pairs) = some payload ∧
      ∀ key, payload.get? key = lastValue? pairs key := by
  refine ⟨⟨Entries.ofPairs pairs, Entries.ordered_ofPairs pairs⟩, ?_, get?_ofPairs pairs⟩
  rw [parse?, pairsText, readAll?_written, Option.map_some]

theorem byteSize_eq_length (payload : Payload) :
    payload.byteSize = (payload.text.toList.flatMap String.utf8EncodeChar).length := by
  rw [byteSize, ← String.size_toByteArray, ← String.utf8Encode_toList, List.utf8Encode,
    List.size_toByteArray]

end Payload

/-! ### A table that is there stays -/

namespace TableQueue

variable {queue after : TableQueue}

theorem delete_present {ids : List RowId} {removed : Nat}
    (deleted : queue.delete ids = .ok (removed, after)) : after.stored.isSome := by
  unfold delete at deleted
  split at deleted
  · cases deleted
  · split at deleted
    · cases deleted
    · simp only [Except.ok.injEq, Prod.mk.injEq] at deleted
      rw [← deleted.2]
      rfl

theorem emittable_present (present : queue.stored.isSome) {limit : Nat}
    {page : List QueuedEvent} (read : queue.emittable limit = .ok (page, after)) :
    after.stored.isSome := by
  unfold emittable at read
  split at read
  · cases read
  · next stored isStored =>
    simp only at read
    split at read
    · obtain ⟨_, rfl⟩ := Prod.mk.inj (Except.ok.inj read)
      exact present
    · obtain ⟨answer, deleted, same⟩ := ok_of_map read
      obtain ⟨_, rfl⟩ := Prod.mk.inj same
      exact delete_present deleted

theorem remove_present (present : queue.stored.isSome) {ids : List RowId} {removed : Nat}
    (answered : queue.remove ids = .ok (removed, after)) : after.stored.isSome := by
  unfold remove at answered
  split at answered
  · obtain ⟨_, rfl⟩ := Prod.mk.inj (Except.ok.inj answered)
    exact present
  · exact delete_present answered

end TableQueue

/-! ### What a queue has later -/

theorem answered_of_map {ε α β γ : Type} {result : Except ε (α × β)} {change : α → γ}
    {answer : γ} {after : β}
    (succeeds : (result.map fun answered => (change answered.1, answered.2)) = .ok (answer, after)) :
    ∃ original, result = .ok (original, after) := by
  obtain ⟨answered, isOk, same⟩ := ok_of_map succeeds
  obtain ⟨_, rfl⟩ := Prod.mk.inj same
  exact ⟨answered.1, isOk⟩

namespace QueueBackend

/-- What is in a queue later: rows that it had, and rows with new numbers that can be read.
Its table does not go away. -/
structure Follows (before after : QueueBackend) : Prop where
  rows : ∀ row ∈ after.contents,
    row ∈ before.contents ∨ before.lastId < row.id ∧ row.event?.isSome
  last : before.lastId ≤ after.lastId
  present : before.Continues before → after.Continues after

variable {backend before after last : QueueBackend}

theorem follows_self (backend : QueueBackend) : backend.Follows backend :=
  ⟨fun _ member => .inl member, Int.le_refl _, id⟩

theorem Follows.trans (left : before.Follows after) (right : after.Follows last) :
    before.Follows last := by
  refine ⟨fun row member => ?_, Int.le_trans left.last right.last,
    fun present => right.present (left.present present)⟩
  rcases right.rows row member with held | ⟨fresh, readable⟩
  · exact left.rows row held
  · exact .inr ⟨Int.lt_of_le_of_lt left.last fresh, readable⟩

theorem HasRows.follows {rows : List StoredRow} (hasRows : before.HasRows rows after)
    (held : rows ⊆ before.contents) (present : before.Continues before → after.Continues after) :
    before.Follows after where
  rows := by
    intro row member
    rw [hasRows.contents] at member
    exact .inl (held member)
  last := Int.le_of_eq hasRows.lastId.symm
  present := present

/-- The table is there, and every row can be read. -/
structure Intact (backend : QueueBackend) : Prop where
  present : backend.Continues backend
  readable : ∀ row ∈ backend.contents, row.event?.isSome

/-- A queue that is intact answers when it is read, and reading changes nothing. -/
theorem Intact.answers (intact : backend.Intact) (limit : Nat) :
    ∃ events, backend.emittable limit = .ok (events, backend) :=
  emittable_total intact.present limit intact.readable

theorem Follows.intact (follows : before.Follows after) (intact : before.Intact) :
    after.Intact := by
  refine ⟨follows.present intact.present, fun row member => ?_⟩
  rcases follows.rows row member with held | ⟨_, readable⟩
  · exact intact.readable row held
  · exact readable

theorem follows_of_insert {payload : Payload} {instant : Int} {id : RowId}
    (inserted : backend.insert payload instant = .ok (id, after)) : backend.Follows after := by
  obtain ⟨isNext, last, held, contents⟩ := insert_ok inserted
  have later : backend.lastId < id := by
    rw [isNext]
    exact Int.lt_succ _
  constructor
  case rows =>
    intro row member
    rw [contents] at member
    rcases List.mem_append.mp member with old | new
    · exact .inl old
    · rw [List.mem_singleton.mp new]
      refine .inr ⟨later, ?_⟩
      have readable := backend.event?_keptAs ⟨id, payload, instant⟩
      rw [keptAs] at readable
      rw [readable]
      rfl
  case last =>
    rw [last]
    exact Int.le_of_lt later
  case present =>
    intro present
    obtain ⟨_, next, total, continues⟩ := insert_total present payload instant
    obtain ⟨_, rfl⟩ := Prod.mk.inj (Except.ok.inj (total.symm.trans inserted))
    exact continues.present

theorem follows_of_emittable {limit : Nat} {page : List QueuedEvent}
    (read : backend.emittable limit = .ok (page, after)) : backend.Follows after := by
  refine (emittable_ok read).2.follows (afterReading_sublist _ _).subset fun present => ?_
  cases backend with
  | memory queue =>
      obtain ⟨_, rfl⟩ := Prod.mk.inj (Except.ok.inj read)
      exact present
  | table queue =>
      obtain ⟨answer, answered, same⟩ := ok_of_map read
      obtain ⟨_, rfl⟩ := Prod.mk.inj same
      exact TableQueue.emittable_present present answered

theorem follows_of_remove {ids : List RowId} {removed : Nat}
    (answered : backend.remove ids = .ok (removed, after)) : backend.Follows after := by
  refine (remove_ok answered).follows List.filter_sublist.subset fun present => ?_
  cases backend with
  | memory queue =>
      obtain ⟨_, rfl⟩ := Prod.mk.inj (Except.ok.inj answered)
      exact present
  | table queue =>
      obtain ⟨answer, removes, same⟩ := ok_of_map answered
      obtain ⟨_, rfl⟩ := Prod.mk.inj same
      exact TableQueue.remove_present present removes

theorem follows_of_removeAll {removed : Nat}
    (answered : backend.removeAll = .ok (removed, after)) : backend.Follows after := by
  refine (removeAll_ok answered).follows (List.nil_subset _) fun present => ?_
  obtain ⟨next, total, _, continues⟩ := removeAll_total present
  obtain ⟨_, rfl⟩ := Prod.mk.inj (Except.ok.inj (total.symm.trans answered))
  exact continues.present

theorem follows_of_evict {eviction : Eviction} {now : Int} {removed : Nat}
    (evicted : backend.evict eviction now = .ok (removed, after)) : backend.Follows after := by
  refine (evict_ok evicted).follows (Eviction.kept_sublist _ _ _).subset fun present => ?_
  obtain ⟨next, total, continues⟩ := evict_total present eviction now
  obtain ⟨_, rfl⟩ := Prod.mk.inj (Except.ok.inj (total.symm.trans evicted))
  exact continues.present

theorem step_follows {step : QueueStep} {answer : QueueAnswer}
    (stepped : backend.step step = .ok (answer, after)) : backend.Follows after := by
  cases step with
  | insert payload wall =>
      obtain ⟨_, inserted⟩ := answered_of_map stepped
      exact follows_of_insert inserted
  | insertAt payload instant =>
      obtain ⟨_, inserted⟩ := answered_of_map stepped
      exact follows_of_insert inserted
  | emittable limit =>
      obtain ⟨_, read⟩ := answered_of_map stepped
      exact follows_of_emittable read
  | remove ids =>
      obtain ⟨_, removed⟩ := answered_of_map stepped
      exact follows_of_remove removed
  | removeAll =>
      obtain ⟨_, removed⟩ := answered_of_map stepped
      exact follows_of_removeAll removed
  | count =>
      obtain ⟨_, _, same⟩ := ok_of_map stepped
      obtain ⟨_, rfl⟩ := Prod.mk.inj same
      exact follows_self _
  | evict eviction wall =>
      obtain ⟨_, evicted⟩ := answered_of_map stepped
      exact follows_of_evict evicted

theorem run_follows (backend : QueueBackend) (steps : List QueueStep) :
    backend.Follows (backend.run steps).2 := by
  induction steps generalizing backend with
  | nil => exact follows_self _
  | cons step rest inductionHypothesis =>
      rw [run]
      cases stepped : backend.step step with
      | ok answer => exact (step_follows stepped).trans (inductionHypothesis answer.2)
      | error cause => exact inductionHypothesis backend

end QueueBackend

/-! ### A database that is opened anew -/

/-- What happens to the queue of a database: a step of a user, or the database is opened
anew. -/
inductive DatabaseMove where
  | step (step : QueueStep)
  | reopen

namespace Database

/-- A step that fails changes nothing. -/
def move (database : Database) : DatabaseMove → Database
  | .step step =>
    match (QueueBackend.table database.queue).step step with
    | .ok (_, .table queue) => { database with queue }
    | _ => database
  | .reopen => database.migrate.2

/-- The database after moves, the oldest first. -/
def after (database : Database) (moves : List DatabaseMove) : Database :=
  moves.foldl move database

theorem move_follows (database : Database) (move : DatabaseMove) :
    (QueueBackend.table database.queue).Follows (.table (database.move move).queue) := by
  cases move with
  | step step =>
      rw [Database.move]
      split
      · next answer queue stepped => exact QueueBackend.step_follows stepped
      · exact QueueBackend.follows_self _
  | reopen => exact QueueBackend.follows_self _

theorem after_follows (database : Database) (moves : List DatabaseMove) :
    (QueueBackend.table database.queue).Follows (.table (database.after moves).queue) := by
  induction moves generalizing database with
  | nil => exact QueueBackend.follows_self _
  | cons move rest inductionHypothesis =>
      exact (database.move_follows move).trans (inductionHypothesis (database.move move))

end Database

/-! ### Reading back -/

namespace QueueBackend

/-- A row with the number is read as the payload, and it is read if the page has room for
all rows. -/
structure ReadsBack (backend : QueueBackend) (id : RowId) (payload : Payload) : Prop where
  same : ∀ limit events left, backend.emittable limit = .ok (events, left) →
    ∀ event ∈ events, event.id = id → event.payload = payload ∧ event.payload.text = payload.text
  found : ∀ limit events left, backend.emittable limit = .ok (events, left) →
    backend.ids.length ≤ limit → ∃ event ∈ events, event.id = id

variable {before after last : QueueBackend} {payload : Payload} {instant : Int} {id : RowId}

/-- The row of an insert that is still there is the row that was inserted: no later row has
its number. -/
theorem row_of_insert (inserted : before.insert payload instant = .ok (id, after))
    (follows : after.Follows last) :
    ∀ row ∈ last.contents, row.id = id → row.event? = some ⟨id, payload⟩ := by
  intro row member isRow
  obtain ⟨isNext, used, held, contents⟩ := insert_ok inserted
  rcases follows.rows row member with old | ⟨fresh, _⟩
  · rw [contents] at old
    rcases List.mem_append.mp old with earlier | new
    · have bounded := before.numbered.bounded row.id (List.mem_map_of_mem earlier)
      rw [isRow, isNext] at bounded
      exact absurd bounded (Int.not_le.mpr (Int.lt_succ _))
    · rw [List.mem_singleton.mp new]
      exact before.event?_keptAs ⟨id, payload, instant⟩
  · rw [used, isRow] at fresh
    exact absurd fresh (Int.lt_irrefl id)

theorem readsBack_of_insert (inserted : before.insert payload instant = .ok (id, after))
    (follows : after.Follows last) (stays : id ∈ last.ids) : last.ReadsBack id payload := by
  have isRow := row_of_insert inserted follows
  rw [← contents_ids] at stays
  constructor
  case same =>
    intro limit events left read event member isEvent
    rw [(emittable_ok read).1] at member
    obtain ⟨row, inRows, readable⟩ := List.mem_filterMap.mp (List.mem_of_mem_take member)
    have isStored := isRow row inRows ((StoredRow.id_of_event? readable).symm.trans isEvent)
    rw [Option.some.inj (readable.symm.trans isStored)]
    exact ⟨rfl, rfl⟩
  case found =>
    intro limit events left read room
    obtain ⟨row, inRows, rfl⟩ := List.mem_map.mp stays
    refine ⟨⟨row.id, payload⟩, ?_, rfl⟩
    rw [(emittable_ok read).1, firstEvents, List.take_of_length_le]
    · exact List.mem_filterMap.mpr ⟨row, inRows, isRow row inRows rfl⟩
    · refine Nat.le_trans (List.length_filterMap_le _ _) (Nat.le_trans ?_ room)
      rw [← contents_ids, List.length_map]

end QueueBackend

/-- A payload is what its text is read as, whatever its keys and values are, and the text has
as many bytes as the payload says. A text that is read as a payload is read as what the
payload's own text is read as, with the last of equal keys. A payload that was inserted into
a queue and is still there is read back, also after its database was opened anew. -/
theorem payload_round_trips :
    (∀ payload : Payload, Payload.parse? payload.text = some payload ∧
      payload.byteSize = (payload.text.toList.flatMap String.utf8EncodeChar).length) ∧
    (∀ text payload, Payload.parse? text = some payload →
      Payload.parse? payload.text = Payload.parse? text ∧
      ∃ pairs, Json.readAll? Payload.readPairs text = some pairs ∧
        ∀ key, payload.get? key = lastValue? pairs key) ∧
    (∀ pairs, ∃ payload, Payload.parse? (Payload.pairsText pairs) = some payload ∧
      ∀ key, payload.get? key = lastValue? pairs key) ∧
    (∀ (before after : QueueBackend) payload instant id steps,
      before.insert payload instant = .ok (id, after) →
      let last := (after.run steps).2
      (before.Intact → ∀ limit, ∃ events, last.emittable limit = .ok (events, last)) ∧
        (id ∈ last.ids → last.ReadsBack id payload)) ∧
    (∀ (database : Database) queue payload instant id moves,
      database.queue.insert payload instant = .ok (id, queue) →
      let last := QueueBackend.table ({ database with queue }.after moves).queue
      ((QueueBackend.table database.queue).Intact →
          ∀ limit, ∃ events, last.emittable limit = .ok (events, last)) ∧
        (id ∈ last.ids → last.ReadsBack id payload)) := by
  refine ⟨fun payload => ⟨payload.parse?_text, payload.byteSize_eq_length⟩, ?_,
    Payload.parse?_pairsText, ?_, ?_⟩
  · intro text payload parsed
    exact ⟨payload.parse?_text.trans parsed.symm, Payload.get?_of_parse? parsed⟩
  · intro before after payload instant id steps inserted last
    have follows := after.run_follows steps
    have whole := (QueueBackend.follows_of_insert inserted).trans follows
    exact ⟨fun intact => (whole.intact intact).answers,
      QueueBackend.readsBack_of_insert inserted follows⟩
  · intro database queue payload instant id moves inserted last
    have insertedRow : (QueueBackend.table database.queue).insert payload instant =
        .ok (id, .table queue) := by
      rw [QueueBackend.insert, inserted]
      rfl
    have follows := Database.after_follows { database with queue } moves
    have whole := (QueueBackend.follows_of_insert insertedRow).trans follows
    exact ⟨fun intact => (whole.intact intact).answers,
      QueueBackend.readsBack_of_insert insertedRow follows⟩

/-- A key with a quote, a backslash and a control character, and a value that needs two
surrogates in UTF-16, come back after the database was opened anew twice. -/
theorem awkward_payload_survives_reopening :
    let payload := Payload.ofPairs [("\"\\\x01", "\n😀"), ("e", "pv")]
    let moves : List DatabaseMove := [.reopen, .step (.insertAt .empty 5), .step .count, .reopen]
    ∃ queue, ({} : Database).queue.insert payload 0 = .ok (1, queue) ∧
      let last := QueueBackend.table (({ queue } : Database).after moves).queue
      ∃ events, last.emittable 2 = .ok (events, last) ∧
        ∃ event ∈ events, event.id = 1 ∧ event.payload.text = payload.text := by
  intro payload moves
  refine ⟨_, rfl, ?_⟩
  intro last
  obtain ⟨answers, readsBack⟩ := payload_round_trips.2.2.2.2 {} _ payload 0 1 moves rfl
  obtain ⟨events, read⟩ := answers ⟨rfl, nofun⟩ 2
  have back := readsBack (by decide)
  obtain ⟨event, member, isRow⟩ := back.found 2 events _ read (by decide)
  exact ⟨events, read, event, member, isRow, (back.same 2 events _ read event member isRow).2⟩

end Telemetry

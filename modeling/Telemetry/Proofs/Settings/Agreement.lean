import Telemetry.Proofs.Settings.Records
import Telemetry.Proofs.Settings.Transaction

/-!
Contract: memory and a table are the same settings, and a move of a legacy record is all or
nothing.

Owns:
- the plain map that both are, the steps of a user and what they answer;
- one law for each step, and from them the answers to every series of steps;
- a move as statements in a transaction, any of which may fail;
- when a move takes place, what it changes, and that nothing changes otherwise.

Does not own: outages of whole calls before and after a step, and values that do not come
back from their text.
-/

namespace Telemetry

/-! ### The plain map -/

/-- What a user does with settings. -/
inductive SettingsStep where
  | get (key : SettingsKey)
  | set (key : SettingsKey) (value : Json)
  | remove (key : SettingsKey)
  | migrate (key : SettingsKey) (transform : Json → Option Json)

/-- What a step answers: the record that was read, nothing, or whether a record was moved. -/
inductive SettingsAnswer where
  | found (value : Option Json)
  | done
  | moved (moved : Bool)
deriving DecidableEq, Repr

namespace SettingsStep

/-- A step writes only values that come back from their text. -/
def ComesBack : SettingsStep → Prop
  | .get _ | .remove _ => True
  | .set _ value => value.ComesBack
  | .migrate _ transform =>
    ∀ old moved, old.ComesBack → transform old = some moved → moved.ComesBack

end SettingsStep

/-- The value under each key. -/
abbrev PlainSettings := SettingsKey → Option Json

namespace PlainSettings

def empty : PlainSettings := fun _ => none

def put (plain : PlainSettings) (key : SettingsKey) (value : Option Json) : PlainSettings :=
  fun wanted => if key = wanted then value else plain wanted

def step (plain : PlainSettings) : SettingsStep → SettingsAnswer × PlainSettings
  | .get key => (.found (plain key), plain)
  | .set key value => (.done, plain.put key (some value))
  | .remove key => (.done, plain.put key none)
  | .migrate key transform =>
    match plain key, (plain (.legacy key.name)).bind transform with
    | none, some moved =>
      (.moved true, (plain.put key (some moved)).put (.legacy key.name) none)
    | _, _ => (.moved false, plain)

/-- The answers to a series of steps, and the map after it. -/
def run (plain : PlainSettings) : List SettingsStep → List SettingsAnswer × PlainSettings
  | [] => ([], plain)
  | first :: rest =>
    let (answer, next) := plain.step first
    let (answers, last) := next.run rest
    (answer :: answers, last)

end PlainSettings

/-! ### Steps on either kind of backend -/

namespace SettingsBackend

def step (backend : SettingsBackend) :
    SettingsStep → Except SettingsError (SettingsAnswer × SettingsBackend)
  | .get key => (backend.get key).map fun value => (.found value, backend)
  | .set key value => (backend.set key value).map fun after => (.done, after)
  | .remove key => (backend.remove key).map fun after => (.done, after)
  | .migrate key transform =>
    (backend.migrate key transform).map fun answer => (.moved answer.1, answer.2)

/-- The answers to a series of steps, and the backend after it. A step that fails changes
nothing. -/
def run (backend : SettingsBackend) :
    List SettingsStep → List (Except SettingsError SettingsAnswer) × SettingsBackend
  | [] => ([], backend)
  | first :: rest =>
    match backend.step first with
    | .ok (answer, next) =>
      let (answers, last) := next.run rest
      (.ok answer :: answers, last)
    | .error cause =>
      let (answers, last) := backend.run rest
      (.error cause :: answers, last)

/-- A backend holds the values of a plain map, which come back from their text. -/
structure Holds (backend : SettingsBackend) (plain : PlainSettings) : Prop where
  answers : ∀ key, backend.get key = .ok (plain key)
  comeBack : ∀ key value, plain key = some value → value.ComesBack

variable {backend after : SettingsBackend} {plain : PlainSettings} {key : SettingsKey}

theorem Holds.works (holds : backend.Holds plain) : backend.Works :=
  works_of_get (holds.answers (.legacy ""))

theorem Holds.updates (holds : backend.Holds plain) {answer : Option Json}
    (updates : backend.Updates key answer after)
    (comesBack : ∀ value, answer = some value → value.ComesBack) :
    after.Holds (plain.put key answer) := by
  constructor
  · intro wanted
    rw [updates wanted, PlainSettings.put, holds.answers]
    split <;> rfl
  · intro wanted value isValue
    rw [PlainSettings.put] at isValue
    split at isValue
    · exact comesBack value isValue
    · exact holds.comeBack wanted value isValue

/-- A move of a legacy record answers and does what it does on the plain map. -/
theorem Holds.migrate (holds : backend.Holds plain) (key : SettingsKey)
    {transform : Json → Option Json}
    (comesBack : (SettingsStep.migrate key transform).ComesBack) :
    ∃ after, backend.step (.migrate key transform) =
        .ok ((plain.step (.migrate key transform)).1, after) ∧
      after.Holds (plain.step (.migrate key transform)).2 := by
  have atKey := holds.answers key
  have atLegacy := holds.answers (.legacy key.name)
  rw [step, PlainSettings.step]
  cases present : plain key with
  | some value =>
      rw [present] at atKey
      rw [migrate_of_present atKey]
      exact ⟨backend, rfl, holds⟩
  | none =>
      rw [present] at atKey
      cases transforms : (plain (.legacy key.name)).bind transform with
      | none =>
          rw [migrate_of_refused atKey atLegacy transforms]
          exact ⟨backend, rfl, holds⟩
      | some moved =>
          obtain ⟨old, isOld, transformed⟩ := Option.bind_eq_some_iff.mp transforms
          rw [isOld] at atLegacy
          have movedBack := comesBack old moved (holds.comeBack _ old isOld) transformed
          obtain ⟨written, next, moves, puts, removes⟩ :=
            migrate_moves key transform atKey atLegacy transformed movedBack
          have holdsWritten := holds.updates puts fun value same =>
            Option.some.inj same ▸ movedBack
          refine ⟨next, ?_, holdsWritten.updates removes nofun⟩
          rw [moves]
          rfl

/-- A step on either kind of backend answers what it answers on the plain map. -/
theorem Holds.step (holds : backend.Holds plain) {step : SettingsStep}
    (comesBack : step.ComesBack) :
    ∃ after, backend.step step = .ok ((plain.step step).1, after) ∧
      after.Holds (plain.step step).2 := by
  cases step with
  | get key =>
      refine ⟨backend, ?_, holds⟩
      rw [SettingsBackend.step, holds.answers key]
      rfl
  | set key value =>
      obtain ⟨after, written, updates⟩ := set_updates holds.works key comesBack
      refine ⟨after, ?_, holds.updates updates fun other same => Option.some.inj same ▸ comesBack⟩
      rw [SettingsBackend.step, written]
      rfl
  | remove key =>
      obtain ⟨after, removed, updates⟩ := remove_updates holds.works key
      refine ⟨after, ?_, holds.updates updates nofun⟩
      rw [SettingsBackend.step, removed]
      rfl
  | migrate key transform => exact holds.migrate key comesBack

theorem Holds.run (holds : backend.Holds plain) {steps : List SettingsStep}
    (comeBack : ∀ step ∈ steps, step.ComesBack) :
    (backend.run steps).1 = (plain.run steps).1.map Except.ok ∧
      (backend.run steps).2.Holds (plain.run steps).2 := by
  induction steps generalizing backend plain with
  | nil => exact ⟨rfl, holds⟩
  | cons step rest inductionHypothesis =>
      obtain ⟨after, stepped, next⟩ := holds.step (comeBack step (by simp))
      obtain ⟨answers, last⟩ := inductionHypothesis next fun other member =>
        comeBack other (List.mem_cons_of_mem _ member)
      simp only [SettingsBackend.run, stepped, PlainSettings.run, List.map_cons, answers,
        true_and]
      exact last

theorem holds_empty_memory : (SettingsBackend.memory .empty).Holds .empty := ⟨fun _ => rfl, nofun⟩

theorem holds_empty_table : (SettingsBackend.table .empty).Holds .empty := ⟨fun _ => rfl, nofun⟩

end SettingsBackend

/-! ### A move is all or nothing -/

/-- What a call to move a record comes to: a record is moved exactly if the call is not refused
and there is a record to move, then the records are those after a move, and otherwise the
backend is as it was. -/
structure SettingsStore.MovesWhole (store : SettingsStore) (key : SettingsKey)
    (transform : Json → Option Json) : Prop where
  moves : (store.migrate key transform).1 = .ok true ↔
    store.refuses .migrate store.calls = false ∧
      ∃ moved, store.backend.Movable key transform moved
  records : (store.migrate key transform).1 = .ok true →
    ∃ moved, store.backend.Movable key transform moved ∧
      store.backend.MovedRecord key moved (store.migrate key transform).2.backend
  unchanged : (store.migrate key transform).1 ≠ .ok true →
    (store.migrate key transform).2.backend = store.backend
  unreadable : store.refuses .migrate store.calls = false →
    store.backend.Unreadable key → (store.migrate key transform).1 = .error .unreadable

/-- A call to move a record is refused, fails, moves nothing, or moves a record. -/
theorem SettingsStore.migrate_outcome (store : SettingsStore) (key : SettingsKey)
    (transform : Json → Option Json) :
    (store.refuses .migrate store.calls = true ∧
        store.migrate key transform = (.error outage, store.called)) ∨
      (store.refuses .migrate store.calls = false ∧
        ∃ cause, store.backend.migrate key transform = .error cause ∧
          store.migrate key transform = (.error cause, store.called)) ∨
      (store.refuses .migrate store.calls = false ∧
        store.backend.migrate key transform = .ok (false, store.backend) ∧
        store.migrate key transform = (.ok false, store.called)) ∨
      (store.refuses .migrate store.calls = false ∧
        ∃ after, store.backend.migrate key transform = .ok (true, after) ∧
          store.migrate key transform = (.ok true, { store.called with backend := after })) := by
  rw [migrate]
  cases store.refuses .migrate store.calls with
  | true => exact .inl ⟨rfl, rfl⟩
  | false =>
      rw [if_neg Bool.false_ne_true]
      rcases store.backend.migrate_cases key transform with
        ⟨cause, failed⟩ | same | ⟨after, _, _, _, moved, _⟩
      · rw [failed]
        exact .inr (.inl ⟨rfl, cause, rfl, rfl⟩)
      · rw [same]
        exact .inr (.inr (.inl ⟨rfl, rfl, rfl⟩))
      · rw [moved]
        exact .inr (.inr (.inr ⟨rfl, after, rfl, rfl⟩))

theorem SettingsStore.movesWhole (store : SettingsStore) (key : SettingsKey)
    (transform : Json → Option Json) : store.MovesWhole key transform := by
  have movable := store.backend.migrate_iff key transform
  rcases store.migrate_outcome key transform with
    ⟨refused, same⟩ | ⟨accepted, cause, failed, same⟩ | ⟨accepted, unmoved, same⟩ |
      ⟨accepted, after, moved, same⟩
  · constructor
    case moves => simp [same, refused]
    case records => simp [same]
    case unchanged => exact fun _ => by rw [same]; rfl
    case unreadable => simp [refused]
  · rw [failed] at movable
    constructor
    case moves => simp [same, ← movable]
    case records => simp [same]
    case unchanged => exact fun _ => by rw [same]; rfl
    case unreadable =>
      intro _ unreadable
      rw [SettingsBackend.migrate_of_unreadable unreadable] at failed
      rw [same, Except.error.inj failed]
  · rw [unmoved] at movable
    constructor
    case moves => simp [same, ← movable]
    case records => simp [same]
    case unchanged => exact fun _ => by rw [same]; rfl
    case unreadable =>
      intro _ unreadable
      rw [SettingsBackend.migrate_of_unreadable unreadable] at unmoved
      cases unmoved
  · constructor
    case moves => simp [same, accepted, ← movable, moved]
    case records =>
      rw [same]
      exact fun _ => SettingsBackend.movedRecord_of_migrate moved
    case unchanged => simp [same]
    case unreadable =>
      intro _ unreadable
      rw [SettingsBackend.migrate_of_unreadable unreadable] at moved
      cases moved

/-- In a transaction a record is moved exactly if no statement fails and there is a record to
move. -/
theorem SettingsTable.migrateUnder_iff (fails : MoveStatement → Bool) (table : SettingsTable)
    (key : SettingsKey) (transform : Json → Option Json) :
    (table.migrateUnder fails key transform).1 = .ok true ↔
      (∀ statement, fails statement = false) ∧
        ∃ moved, (SettingsBackend.table table).Movable key transform moved := by
  rw [← SettingsBackend.migrate_iff]
  constructor
  · intro moved
    rcases table.migrateUnder_cases fails key transform with ⟨not, _⟩ | ⟨_, noneFails, isMove⟩
    · exact absurd moved not
    · refine ⟨noneFails, .table (table.migrateUnder fails key transform).2, ?_⟩
      rw [SettingsBackend.migrate, isMove]
      rfl
  · rintro ⟨noneFails, after, isMove⟩
    have spared : fails = fun _ => false := funext noneFails
    rw [spared, migrateUnder_none]
    rw [SettingsBackend.migrate] at isMove
    cases moved : table.migrate key transform with
    | error cause =>
        rw [moved] at isMove
        cases isMove
    | ok answer =>
        rw [moved] at isMove
        obtain ⟨isTrue, _⟩ := Prod.mk.inj (Except.ok.inj isMove)
        exact congrArg Except.ok isTrue

/-- Memory and a table answer every series of steps as one map does, and then hold its values,
if each value that is written is read back from its text. In every state a move is all or
nothing, whatever is stored, and also if any of its statements fails. -/
theorem settings_agree_and_move_whole :
    (∀ steps : List SettingsStep, (∀ step ∈ steps, step.ComesBack) →
      let plain := PlainSettings.empty.run steps
      let memory := (SettingsBackend.memory .empty).run steps
      let table := (SettingsBackend.table .empty).run steps
      memory.1 = plain.1.map Except.ok ∧ table.1 = plain.1.map Except.ok ∧
        ∀ key, memory.2.get key = .ok (plain.2 key) ∧ table.2.get key = .ok (plain.2 key)) ∧
    (∀ (store : SettingsStore) key transform, store.MovesWhole key transform) ∧
    ∀ fails (table : SettingsTable) key transform,
      let result := table.migrateUnder fails key transform
      (result.1 = .ok true ↔ (∀ statement, fails statement = false) ∧
        ∃ moved, (SettingsBackend.table table).Movable key transform moved) ∧
      (result.1 = .ok true → table.migrate key transform = .ok (true, result.2)) ∧
      (result.1 ≠ .ok true → result.2 = table) := by
  refine ⟨?_, SettingsStore.movesWhole, ?_⟩
  · intro steps comeBack plain memory table
    obtain ⟨memoryAnswers, memoryHolds⟩ := SettingsBackend.holds_empty_memory.run comeBack
    obtain ⟨tableAnswers, tableHolds⟩ := SettingsBackend.holds_empty_table.run comeBack
    exact ⟨memoryAnswers, tableAnswers, fun key =>
      ⟨memoryHolds.answers key, tableHolds.answers key⟩⟩
  · intro fails table key transform result
    refine ⟨table.migrateUnder_iff fails key transform, ?_⟩
    rcases table.migrateUnder_cases fails key transform with ⟨not, same⟩ | ⟨moved, _, isMove⟩
    · exact ⟨fun moved => absurd moved not, fun _ => same⟩
    · exact ⟨fun _ => isMove, fun not => absurd moved not⟩

/-- A legacy record is claimed by the first of two scopes. The legacy scope itself claims none,
and a text that is no value under the key stops a move for good. -/
theorem first_scope_claims_legacy_record :
    let steps : List SettingsStep :=
      [.set (.legacy "session") (.integer 4), .migrate (.legacy "session") some,
        .migrate ⟨"app", "session"⟩ fun _ => some (.integer 5), .migrate ⟨"web", "session"⟩ some,
        .get ⟨"app", "session"⟩, .get (.legacy "session")]
    let unreadable : SettingsStore :=
      { backend := .table ⟨some [(⟨"app", "session"⟩, "4,"), (.legacy "session", "4")]⟩ }
    ((SettingsBackend.table .empty).run steps).1 =
        [.done, .moved false, .moved true, .moved false, .found (some (.integer 5)),
          .found none].map Except.ok ∧
      (unreadable.migrate ⟨"app", "session"⟩ some).1 = .error .unreadable ∧
      (unreadable.migrate ⟨"app", "session"⟩ some).2.backend = unreadable.backend := by
  intro steps unreadable
  obtain ⟨agree, whole, _⟩ := settings_agree_and_move_whole
  have small : ∀ value : Int, Json.leastSigned ≤ value ∧ value ≤ Json.greatestUnsigned →
      (Json.integer value).ComesBack :=
    fun value hasWord => Json.parse?_text (.integer hasWord)
  have comeBack : ∀ step ∈ steps, step.ComesBack := by
    have five : ∀ old moved : Json, old.ComesBack → some (Json.integer 5) = some moved →
        moved.ComesBack := fun old moved _ same => Option.some.inj same ▸ small 5 (by decide)
    have same : ∀ old moved : Json, old.ComesBack → some old = some moved → moved.ComesBack :=
      fun old moved comesBack same => Option.some.inj same ▸ comesBack
    simp only [steps, List.forall_mem_cons]
    exact ⟨small 4 (by decide), same, five, same, trivial, trivial, nofun⟩
  have answers := (agree steps comeBack).2.1
  have stops := (whole unreadable ⟨"app", "session"⟩ some)
  have isError : (unreadable.migrate ⟨"app", "session"⟩ some).1 = .error .unreadable :=
    stops.unreadable rfl (.inl ⟨.text "4,", rfl, by rfl⟩)
  refine ⟨?_, isError, stops.unchanged (by rw [isError]; nofun)⟩
  rw [answers]
  rfl

end Telemetry

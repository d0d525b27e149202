import Telemetry.Settings.Store

/-!
Contract: the move of a legacy record as statements in a transaction.

Owns:
- statements on a table of which each may fail, and the commit;
- what a transaction that is dropped leaves: the table as it was stored;
- the move of a table as such a transaction.

Does not own: when a move takes place.
-/

namespace Telemetry

/-- The statements of a move, in order. -/
inductive MoveStatement where
  | begin
  | readRecord
  | readLegacy
  | write
  | delete
  | commit
deriving DecidableEq, Repr

/-- A table in a transaction: as it is stored, and as the statements so far have left it. -/
structure Transaction where
  stored : SettingsTable
  pending : SettingsTable

/-- Statements one after the other until one fails. -/
abbrev Statements := ExceptT SettingsError (StateM Transaction)

namespace Transaction

variable {α : Type}

/-- Runs a statement on what is pending. -/
def execute (fails : MoveStatement → Bool) (statement : MoveStatement)
    (act : SettingsTable → Except SettingsError (α × SettingsTable)) : Statements α :=
  fun transaction =>
    if fails statement then
      (.error SettingsStore.outage, transaction)
    else
      match act transaction.pending with
      | .error cause => (.error cause, transaction)
      | .ok (answer, pending) => (.ok answer, { transaction with pending })

/-- Stores what is pending. -/
def commit (fails : MoveStatement → Bool) : Statements Unit := fun transaction =>
  if fails .commit then
    (.error SettingsStore.outage, transaction)
  else
    (.ok (), { transaction with stored := transaction.pending })

/-- The statements of a move up to the commit. The answer says whether there is one. -/
def prepare (fails : MoveStatement → Bool) (key : SettingsKey)
    (transform : Json → Option Json) : Statements Bool := do
  execute fails .begin fun table => .ok ((), table)
  let held ← execute fails .readRecord fun table => (table.get key).map fun held => (held, table)
  if held.isSome then
    return false
  let old ← execute fails .readLegacy fun table =>
    (table.get (.legacy key.name)).map fun old => (old, table)
  match old.bind transform with
  | none => return false
  | some moved =>
    execute fails .write fun table => (table.set key moved).map fun written => ((), written)
    execute fails .delete fun table =>
      (table.remove (.legacy key.name)).map fun removed => ((), removed)
    return true

def move (fails : MoveStatement → Bool) (key : SettingsKey) (transform : Json → Option Json) :
    Statements Bool := do
  if ← prepare fails key transform then
    commit fails
    return true
  else
    return false

end Transaction

/-- A move in a transaction that is dropped at its end: the table is what was stored. -/
def SettingsTable.migrateUnder (fails : MoveStatement → Bool) (table : SettingsTable)
    (key : SettingsKey) (transform : Json → Option Json) :
    Except SettingsError Bool × SettingsTable :=
  let (answer, transaction) := Transaction.move fails key transform ⟨table, table⟩
  (answer, transaction.stored)

namespace Transaction

variable {α β : Type} {fails : MoveStatement → Bool} {statement : MoveStatement}
  {act : SettingsTable → Except SettingsError (α × SettingsTable)}
  {first : Statements α} {next : α → Statements β} {before after : Transaction}

theorem bind_eq (first : Statements α) (next : α → Statements β) (before : Transaction) :
    (first >>= next) before =
      match first before with
      | (.ok answer, between) => next answer between
      | (.error cause, between) => (.error cause, between) := by
  simp only [bind, ExceptT.bind, ExceptT.mk, StateT.bind]
  cases first before with
  | mk answer between => cases answer <;> rfl

/-- Statements that succeed one after the other. -/
theorem bind_ok {answer : β} (succeeds : (first >>= next) before = (.ok answer, after)) :
    ∃ held between, first before = (.ok held, between) ∧
      next held between = (.ok answer, after) := by
  rw [bind_eq] at succeeds
  split at succeeds
  · next held between isFirst => exact ⟨held, between, isFirst, succeeds⟩
  · cases succeeds

theorem execute_ok {answer : α} (succeeds : execute fails statement act before = (.ok answer, after)) :
    fails statement = false ∧
      ∃ pending, act before.pending = .ok (answer, pending) ∧ after = { before with pending } := by
  unfold execute at succeeds
  split at succeeds
  · cases succeeds
  · next runs =>
    split at succeeds
    · cases succeeds
    · next held pending acts =>
      obtain ⟨same, rfl⟩ := Prod.mk.inj succeeds
      rw [Except.ok.inj same] at acts
      exact ⟨Bool.eq_false_iff.mpr runs, pending, acts, rfl⟩

/-- What statements make of a transaction is only pending. -/
def StoresNothing (statements : Statements α) : Prop :=
  ∀ before, (statements before).2.stored = before.stored

theorem storesNothing_pure (answer : α) : StoresNothing (pure answer) := fun _ => rfl

theorem storesNothing_execute (fails : MoveStatement → Bool) (statement : MoveStatement)
    (act : SettingsTable → Except SettingsError (α × SettingsTable)) :
    StoresNothing (execute fails statement act) := by
  intro before
  unfold execute
  split
  · rfl
  · split <;> rfl

theorem StoresNothing.bind (storesFirst : StoresNothing first)
    (storesNext : ∀ answer, StoresNothing (next answer)) : StoresNothing (first >>= next) := by
  intro before
  have isFirst := storesFirst before
  rw [bind_eq]
  split
  · next answer between ran =>
    rw [ran] at isFirst
    exact (storesNext answer between).trans isFirst
  · next cause between ran =>
    rw [ran] at isFirst
    exact isFirst

theorem storesNothing_prepare (fails : MoveStatement → Bool) (key : SettingsKey)
    (transform : Json → Option Json) : StoresNothing (prepare fails key transform) := by
  refine (storesNothing_execute _ _ _).bind fun _ => ?_
  refine (storesNothing_execute _ _ _).bind fun held => ?_
  split
  · exact storesNothing_pure false
  refine (storesNothing_execute _ _ _).bind fun old => ?_
  split
  · exact storesNothing_pure false
  refine (storesNothing_execute _ _ _).bind fun _ => ?_
  refine (storesNothing_execute _ _ _).bind fun _ => ?_
  exact storesNothing_pure true

/-- A statement that gives back what it found leaves what is pending. -/
theorem execute_reads {answer : α} {find : SettingsTable → Except SettingsError α}
    (succeeds : execute fails statement (fun table => (find table).map fun held => (held, table))
      before = (.ok answer, after)) :
    fails statement = false ∧ find before.pending = .ok answer ∧ after = before := by
  obtain ⟨runs, pending, acts, rfl⟩ := execute_ok succeeds
  cases found : find before.pending with
  | error cause =>
      rw [found] at acts
      cases acts
  | ok held =>
      rw [found] at acts
      obtain ⟨rfl, rfl⟩ := Prod.mk.inj (Except.ok.inj acts)
      exact ⟨runs, rfl, rfl⟩

/-- A statement that changes what is pending. -/
theorem execute_writes {change : SettingsTable → Except SettingsError SettingsTable} {answer : Unit}
    (succeeds : execute fails statement (fun table => (change table).map fun changed => ((), changed))
      before = (.ok answer, after)) :
    fails statement = false ∧ change before.pending = .ok after.pending := by
  obtain ⟨runs, pending, acts, rfl⟩ := execute_ok succeeds
  cases changed : change before.pending with
  | error cause =>
      rw [changed] at acts
      cases acts
  | ok held =>
      rw [changed] at acts
      obtain ⟨_, rfl⟩ := Prod.mk.inj (Except.ok.inj acts)
      exact ⟨runs, rfl⟩

/-- Statements that lead to a commit did all that a move does. -/
theorem prepare_ok {key : SettingsKey} {transform : Json → Option Json}
    (prepared : prepare fails key transform before = (.ok true, after)) :
    before.pending.migrate key transform = .ok (true, after.pending) ∧
      ∀ statement, statement ≠ .commit → fails statement = false := by
  obtain ⟨_, _, begins, prepared⟩ := bind_ok prepared
  obtain ⟨beginRuns, _, same, rfl⟩ := execute_ok begins
  obtain ⟨_, rfl⟩ := Prod.mk.inj (Except.ok.inj same)
  obtain ⟨held, _, reads, prepared⟩ := bind_ok prepared
  obtain ⟨readRuns, atKey, rfl⟩ := execute_reads reads
  split at prepared
  · cases prepared
  next absent =>
  obtain ⟨old, _, reads, prepared⟩ := bind_ok prepared
  obtain ⟨legacyRuns, atLegacy, rfl⟩ := execute_reads reads
  cases transforms : old.bind transform with
  | none =>
      rw [transforms] at prepared
      cases prepared
  | some moved =>
  rw [transforms] at prepared
  obtain ⟨_, written, writes, prepared⟩ := bind_ok prepared
  obtain ⟨writeRuns, isWritten⟩ := execute_writes writes
  obtain ⟨_, removed, removes, prepared⟩ := bind_ok prepared
  obtain ⟨deleteRuns, isRemoved⟩ := execute_writes removes
  obtain ⟨_, rfl⟩ := Prod.mk.inj prepared
  constructor
  · simp only [SettingsTable.migrate, bind, Except.bind, atKey, absent, atLegacy, transforms,
      isWritten, isRemoved]
    rfl
  · intro statement notCommit
    cases statement with
    | begin => exact beginRuns
    | readRecord => exact readRuns
    | readLegacy => exact legacyRuns
    | write => exact writeRuns
    | delete => exact deleteRuns
    | commit => exact absurd rfl notCommit

end Transaction

/-- A move that fails at any of its statements, or moves no record, leaves the table as it was.
A move that succeeds was spared all failures. -/
theorem SettingsTable.migrateUnder_cases (fails : MoveStatement → Bool) (table : SettingsTable)
    (key : SettingsKey) (transform : Json → Option Json) :
    ((table.migrateUnder fails key transform).1 ≠ .ok true ∧
        (table.migrateUnder fails key transform).2 = table) ∨
      ((table.migrateUnder fails key transform).1 = .ok true ∧
        (∀ statement, fails statement = false) ∧
        table.migrate key transform = .ok (true, (table.migrateUnder fails key transform).2)) := by
  have kept := Transaction.storesNothing_prepare fails key transform ⟨table, table⟩
  simp only [migrateUnder, Transaction.move, Transaction.bind_eq]
  cases ran : Transaction.prepare fails key transform ⟨table, table⟩ with
  | mk answer pending =>
      rw [ran] at kept
      cases answer with
      | error cause => exact .inl ⟨nofun, kept⟩
      | ok moves =>
          cases moves with
          | false => exact .inl ⟨nofun, kept⟩
          | true =>
              obtain ⟨isMove, noneFails⟩ := Transaction.prepare_ok ran
              simp only [if_true, Transaction.bind_eq, Transaction.commit]
              by_cases commitFails : fails .commit = true
              · rw [if_pos commitFails]
                exact .inl ⟨nofun, kept⟩
              · rw [if_neg commitFails]
                refine .inr ⟨rfl, fun statement => ?_, isMove⟩
                by_cases isCommit : statement = .commit
                · rw [isCommit]
                  exact Bool.eq_false_iff.mpr commitFails
                · exact noneFails statement isCommit

/-- Without failures the transaction is the move of the table. -/
theorem SettingsTable.migrateUnder_none (table : SettingsTable) (key : SettingsKey)
    (transform : Json → Option Json) :
    table.migrateUnder (fun _ => false) key transform =
      match table.migrate key transform with
      | .error cause => (.error cause, table)
      | .ok (moved, after) => (.ok moved, after) := by
  simp only [migrateUnder, Transaction.move, Transaction.prepare, Transaction.bind_eq,
    Transaction.execute, Bool.false_eq_true, if_false]
  rw [migrate]
  cases table.get key with
  | error cause => rfl
  | ok held =>
      cases held with
      | some value => rfl
      | none =>
          simp only [Except.map, Option.isSome_none, Bool.false_eq_true, if_false,
            Transaction.bind_eq, Transaction.execute]
          cases table.get (.legacy key.name) with
          | error cause => rfl
          | ok old =>
              cases transforms : old.bind transform with
              | none =>
                  simp only [transforms, bind, Except.bind, Option.isSome_none,
                    Bool.false_eq_true, if_false]
                  rfl
              | some moved =>
                  simp only [transforms, Transaction.bind_eq, Transaction.execute,
                    Bool.false_eq_true, if_false]
                  cases writes : table.set key moved with
                  | error cause =>
                      simp only [transforms, writes, bind, Except.bind, Option.isSome_none,
                        Bool.false_eq_true, if_false]
                  | ok written =>
                      simp only [transforms, writes, bind, Except.bind, Option.isSome_none,
                        Bool.false_eq_true, if_false]
                      cases written.remove (.legacy key.name) <;> rfl

end Telemetry

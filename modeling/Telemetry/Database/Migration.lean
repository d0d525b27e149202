/-!
Contract: changes of a database's layout that are applied once each.

Owns:
- a change as a name and statements that may fail part-way;
- transactions, which leave nothing of a failed change;
- the run that applies the changes that are not recorded yet, in order.

Does not own: what a database is. It is any type with a record of applied names.
-/

namespace Telemetry

/-- How a database records which changes were applied. `prepare` makes room for
the record, `names` reads it, and `add` records a name; each may fail. -/
structure MigrationRecord (δ : Type) where
  prepare : δ → Option δ
  names : δ → Option (List String)
  add : String → δ → Option δ

/-- A statement: the changed database, or a failure. -/
abbrev Statement (δ : Type) := δ → Option δ

/-- A change of the layout. -/
structure Migration (δ : Type) where
  name : String
  statements : List (Statement δ)

/-- Why a run stops: the record cannot be read, or the change with a name
failed. -/
inductive MigrationError where
  | stateQuery
  | executionFailed (name : String)
deriving DecidableEq, Repr

namespace Migration

variable {δ : Type}

/-- Runs statements until one fails. The answer says whether all succeeded; the
effects of those before a failure are there. -/
def runStatements : List (Statement δ) → δ → Bool × δ
  | [], database => (true, database)
  | statement :: rest, database =>
    match statement database with
    | none => (false, database)
    | some changed => runStatements rest changed

/-- Runs statements as one: after a failure the database is as it was. -/
def transaction (statements : List (Statement δ)) (database : δ) : Bool × δ :=
  match runStatements statements database with
  | (true, changed) => (true, changed)
  | (false, _) => (false, database)

/-- The name that a failure to prepare the record is given. -/
def bootstrapName : String := "_pulse_migrations_bootstrap"

/-- Applies the changes that are not recorded, in order, each with its record in
one transaction. The answer counts them. -/
def applyPending (record : MigrationRecord δ) :
    List (Migration δ) → δ → Except MigrationError Nat × δ
  | [], database => (.ok 0, database)
  | migration :: rest, database =>
    match record.names database with
    | none => (.error .stateQuery, database)
    | some names =>
      if names.contains migration.name then
        applyPending record rest database
      else
        match transaction (migration.statements ++ [record.add migration.name]) database with
        | (false, database) => (.error (.executionFailed migration.name), database)
        | (true, database) =>
          let (answer, database) := applyPending record rest database
          (answer.map (· + 1), database)

/-- Prepares the record and applies the changes that are not recorded. -/
def run (record : MigrationRecord δ) (migrations : List (Migration δ)) (database : δ) :
    Except MigrationError Nat × δ :=
  match record.prepare database with
  | none => (.error (.executionFailed bootstrapName), database)
  | some database => applyPending record migrations database

end Migration

end Telemetry

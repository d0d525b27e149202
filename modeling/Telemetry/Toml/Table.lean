import Telemetry.Toml

/-!
Contract: how headers and keys build up tables.

Owns:
- placing a value under a dotted key;
- reaching the table that a header's steps lead to, and defining its last step
  as a table or as one more table of an array;
- the refusals: nothing is defined twice, and a table is added to only in the
  ways that its origin allows.

Does not own: the texts of headers and keys.
-/

namespace Telemetry.Toml

/-- Puts a value under a dotted key, which must be free. -/
def place (value : Toml) : (steps : List String) → Table → Option Table
  | [], _ => none
  | [key], entries => if entries.contains key then none else some (entries.insert key value)
  | step :: steps, entries =>
    let endsHere := steps.length == 1
    match entries.get? step with
    | none => (place value steps []).map fun inner => entries.insert step (.table .dotted inner)
    | some (.table origin inner) =>
      if origin.isOpen endsHere then
        (place value steps inner).map fun inner => entries.insert step (.table origin inner)
      else
        none
    | some (.tables earlier last) =>
      if endsHere then
        none
      else
        (place value steps last).map fun last => entries.insert step (.tables earlier last)
    | some _ => none

/-- Changes the table that steps lead to. Missing tables are implied, and an array
of tables is entered by its last one. -/
def reach (change : Table → Option Table) : (steps : List String) → Table → Option Table
  | [], entries => change entries
  | step :: steps, entries =>
    match entries.get? step with
    | none =>
      (reach change steps []).map fun inner => entries.insert step (.table .implied inner)
    | some (.table .closed _) => none
    | some (.table origin inner) =>
      (reach change steps inner).map fun inner => entries.insert step (.table origin inner)
    | some (.tables earlier last) =>
      (reach change steps last).map fun last => entries.insert step (.tables earlier last)
    | some _ => none

/-- Defines a table, which may have been implied but not defined. -/
def define (key : String) (entries : Table) : Option Table :=
  match entries.get? key with
  | none => some (entries.insert key (.table .header []))
  | some (.table .implied inner) => some (entries.insert key (.table .header inner))
  | some _ => none

/-- Adds one more table to an array of tables. -/
def append (key : String) (entries : Table) : Option Table :=
  match entries.get? key with
  | none => some (entries.insert key (.tables [] []))
  | some (.tables earlier last) => some (entries.insert key (.tables (earlier ++ [last]) []))
  | some _ => none

/-- A value under a dotted key. -/
structure Assignment where
  steps : List String
  value : Toml

def ofAssignments (assignments : List Assignment) : Option Table :=
  assignments.foldlM
    (fun entries assignment => place assignment.value assignment.steps entries)
    []

/-- A line of a document that is not blank: a header of a table, a header of one
more table of an array, or an assignment. -/
inductive Statement where
  | header (steps : List String)
  | element (steps : List String)
  | assignment (assignment : Assignment)

/-- A document up to some line: its table, and the steps of the latest header. -/
structure Outline where
  root : Table := []
  current : List String := []

/-- Changes the table that all but the last step lead to, with the last step. -/
def reachLast (change : String → Table → Option Table) (steps : List String) (entries : Table) :
    Option Table :=
  match steps.getLast? with
  | none => none
  | some key => reach (change key) steps.dropLast entries

/-- The document after one more line. -/
def Outline.add (outline : Outline) : Statement → Option Outline
  | .header steps => (reachLast define steps outline.root).map fun root => ⟨root, steps⟩
  | .element steps => (reachLast append steps outline.root).map fun root => ⟨root, steps⟩
  | .assignment entry =>
    (reach (place entry.value entry.steps) outline.current outline.root).map fun root =>
      { outline with root := root }

def ofStatements (statements : List Statement) : Option Table :=
  (statements.foldlM Outline.add {}).map Outline.root

end Telemetry.Toml

import Mathlib.Data.List.Forall2
import Telemetry.State.Manager

/-!
Contract: what the machines of a manager add to an event.

Owns:
- the answers of machines that are asked one after the other;
- that the entities of an event are those of the answers, in order;
- that the values of an event are its own, and under other keys the first that is offered.

Does not own: the states that the machines are asked with.
-/

namespace Telemetry

namespace Entries

variable {κ α : Type} [DecidableEq κ]

theorem contains_iff {entries : Entries κ α} {key : κ} :
    entries.contains key = true ↔ ∃ value, entries.get? key = some value := by
  rw [contains, Option.isSome_iff_exists]

end Entries

namespace Manager

variable {ω α : Type}

/-- What machines answer that are asked one after the other, each with the state that a
snapshot shows of it. -/
def answersInTurn (ask : Machine ω → Option MachineState → ω → α × ω) (seen : Snapshot) :
    List (Machine ω) → Manager ω → ω → List α
  | [], _, _ => []
  | machine :: rest, manager, world =>
    let (state, manager, world) := manager.read world seen machine.identifier
    let (answer, world) := ask machine state world
    answer :: answersInTurn ask seen rest manager world

/-- Each machine is asked once, in order. -/
theorem answersInTurn_answers (ask : Machine ω → Option MachineState → ω → α × ω)
    (seen : Snapshot) (machines : List (Machine ω)) (manager : Manager ω) (world : ω) :
    List.Forall₂ (fun machine answer => ∃ state world, (ask machine state world).1 = answer)
      machines (answersInTurn ask seen machines manager world) := by
  induction machines generalizing manager world with
  | nil => exact .nil
  | cons machine rest inductionHypothesis =>
      exact .cons ⟨_, _, rfl⟩ (inductionHypothesis _ _)

/-- Asking a machine for entities. -/
def askEntities (event : ObservedEvent) (machine : Machine ω) (state : Option MachineState)
    (world : ω) : Option (List Entity) × ω :=
  machine.entities event state world

/-- Asking a machine for values, which leaves the world. -/
def askValues (event : ObservedEvent) (machine : Machine ω) (state : Option MachineState)
    (world : ω) : Option Fields × ω :=
  (machine.payloadValues event state, world)

theorem entitiesOf_eq (event : ObservedEvent) (seen : Snapshot) (machines : List (Machine ω))
    (manager : Manager ω) (world : ω) :
    (entitiesOf event seen machines manager world).1 =
      (answersInTurn (askEntities event) seen machines manager world).flatMap fun answer =>
        answer.getD [] := by
  induction machines generalizing manager world with
  | nil => rfl
  | cons machine rest inductionHypothesis =>
      rw [answersInTurn, List.flatMap_cons, ← inductionHypothesis]
      rfl

/-- A value takes no place that is taken. -/
theorem get?_mergeValues (values : List (String × Json)) (fields : Fields) (key : String) :
    Entries.get? (mergeValues values fields).2 key =
      (Entries.get? fields key).or (Entries.get? values key) := by
  induction values generalizing fields with
  | nil => rw [mergeValues, Entries.get?_nil, Option.or_none]
  | cons entry rest inductionHypothesis =>
      obtain ⟨first, value⟩ := entry
      rw [mergeValues, Entries.get?]
      by_cases taken : Entries.contains fields first = true
      · rw [if_pos taken, inductionHypothesis]
        by_cases same : first = key
        · obtain ⟨held, isHeld⟩ := Entries.contains_iff.mp taken
          rw [← same, isHeld]
          rfl
        · rw [if_neg same]
      · rw [if_neg taken, inductionHypothesis, Entries.get?_insert]
        by_cases same : first = key
        · have free : Entries.get? fields key = none := by
            rw [← same]
            exact Option.not_isSome_iff_eq_none.mp taken
          rw [if_pos same, if_pos same, free]
          rfl
        · rw [if_neg same, if_neg same]

theorem ordered_mergeValues {fields : Fields} (ordered : fields.Ordered)
    (values : List (String × Json)) : Entries.Ordered (mergeValues values fields).2 := by
  induction values generalizing fields with
  | nil => exact ordered
  | cons entry rest inductionHypothesis =>
      rw [mergeValues]
      split
      · exact inductionHypothesis ordered
      · exact inductionHypothesis (Entries.ordered_insert ordered entry.1 entry.2)

theorem mergeValues_append (left right : List (String × Json)) (fields : Fields) :
    mergeValues (left ++ right) fields =
      ((mergeValues left fields).1 && (mergeValues right (mergeValues left fields).2).1,
        (mergeValues right (mergeValues left fields).2).2) := by
  induction left generalizing fields with
  | nil => rfl
  | cons entry rest inductionHypothesis =>
      rw [List.cons_append, mergeValues, mergeValues]
      split
      · rw [inductionHypothesis]
        rfl
      · exact inductionHypothesis _

/-- Machine after machine, the values that are offered are merged as one list. -/
theorem addValuesOf_eq (event : ObservedEvent) (seen : Snapshot) (machines : List (Machine ω))
    (manager : Manager ω) (world : ω) (fields : Fields) :
    (addValuesOf event seen machines manager world fields).1 =
      mergeValues ((answersInTurn (askValues event) seen machines manager world).flatMap
        fun answer => answer.getD []) fields := by
  induction machines generalizing manager world fields with
  | nil => rfl
  | cons machine rest inductionHypothesis =>
      simp only [addValuesOf, answersInTurn, askValues, List.flatMap_cons, mergeValues_append,
        inductionHypothesis]

theorem ordered_addValuesOf (event : ObservedEvent) (seen : Snapshot)
    (machines : List (Machine ω)) (manager : Manager ω) (world : ω) {fields : Fields}
    (ordered : fields.Ordered) :
    Entries.Ordered (addValuesOf event seen machines manager world fields).1.2 := by
  rw [addValuesOf_eq]
  exact ordered_mergeValues ordered _

theorem get?_addValuesOf (event : ObservedEvent) (seen : Snapshot) (machines : List (Machine ω))
    (manager : Manager ω) (world : ω) (fields : Fields) (key : String) :
    Entries.get? (addValuesOf event seen machines manager world fields).1.2 key =
      (Entries.get? fields key).or
        (Entries.get? ((answersInTurn (askValues event) seen machines manager world).flatMap
          fun answer => answer.getD []) key) := by
  rw [addValuesOf_eq, get?_mergeValues]

end Manager

end Telemetry

import Mathlib.Data.List.Flatten
import Mathlib.Data.List.Nodup
import Telemetry.Proofs.State.Answers
import Telemetry.Proofs.State.Forcing
import Telemetry.Proofs.State.Lazy

/-!
Contract: everything that a host does with a manager.

Owns:
- moves and questions as one type, and their runs;
- the parts that every law about runs is proved by: a machine is registered or removed, an event
  is noted, machines are asked, or the world alone changes;
- that the names of machines and versions stay in order;
- the entities that one machine gives.

Does not own: what holds of the runs.
-/

namespace Telemetry

variable {ω : Type}

/-- What a host does with a manager: one of the moves, or it asks the machines about any event and
any snapshot for entities, values or votes, or tells them that an event was tracked. -/
inductive ManagerUse (ω : Type) where
  | move (move : ManagerMove ω)
  | entities (event : ObservedEvent) (seen : Snapshot)
  | payloadValues (event : ObservedEvent) (seen : Snapshot) (fields : Fields)
  | accepts (event : ObservedEvent) (seen : Snapshot)
  | afterTrack (event : ObservedEvent)

namespace ManagerUse

/-- The event of which a snapshot is taken. -/
def observed? : ManagerUse ω → Option ObservedEvent
  | .move (.observe event) => some event
  | _ => none

end ManagerUse

namespace Manager

def use (manager : Manager ω) (world : ω) : ManagerUse ω → Manager ω × ω
  | .move move => manager.perform world move
  | .entities event seen => (manager.entities world event seen).2
  | .payloadValues event seen fields => (manager.addPayloadValues world event seen fields).2
  | .accepts event seen => (manager.accepts world event seen).2
  | .afterTrack event => (manager, manager.afterTrack world event)

def useAll (manager : Manager ω) (world : ω) (uses : List (ManagerUse ω)) : Manager ω × ω :=
  uses.foldl (fun current use => current.1.use current.2 use) (manager, world)

/-- A use registers or removes a machine, notes an event, asks machines, or changes the world
alone. -/
inductive UseCase (manager : Manager ω) (world : ω) : ManagerUse ω → Manager ω → ω → Prop where
  | add (machine : Machine ω) :
      UseCase manager world (.move (.add machine)) (manager.add machine) world
  | remove (identifier : String) :
      UseCase manager world (.move (.remove identifier)) (manager.remove identifier) world
  | observe (event : ObservedEvent) :
      UseCase manager world (.move (.observe event)) (manager.snapshot world event).2.1
        (manager.snapshot world event).2.2
  | question {use : ManagerUse ω} {after : Manager ω} {later : ω} :
      use.observed? = none → Questions manager world after later →
        UseCase manager world use after later
  | elsewhere {use : ManagerUse ω} (later : ω) :
      use.observed? = none → UseCase manager world use manager later

theorem useCase (manager : Manager ω) (world : ω) (use : ManagerUse ω) :
    UseCase manager world use (manager.use world use).1 (manager.use world use).2 := by
  cases use with
  | move move =>
      cases move with
      | add machine => exact .add machine
      | remove identifier => exact .remove identifier
      | observe event => exact .observe event
      | read seen identifier => exact .question rfl (manager.questions_read world seen identifier)
      | elsewhere change => exact .elsewhere _ rfl
  | entities event seen => exact .question rfl (manager.questions_entities world event seen)
  | payloadValues event seen fields =>
      exact .question rfl (manager.questions_addPayloadValues world event seen fields)
  | accepts event seen => exact .question rfl (manager.questions_accepts world event seen)
  | afterTrack event => exact .elsewhere _ rfl

theorem useAll_append (manager : Manager ω) (world : ω) (first second : List (ManagerUse ω)) :
    manager.useAll world (first ++ second) =
      (manager.useAll world first).1.useAll (manager.useAll world first).2 second := by
  rw [useAll, List.foldl_append]
  rfl

/-! ### Names -/

/-- No two machines have one identifier, only registered machines have a latest version, and that
is one of the versions. -/
structure Tidy (manager : Manager ω) : Prop where
  distinct : manager.identifiers.Nodup
  owned : ∀ {identifier : String} {id : VersionId},
    manager.current.get? identifier = some id → identifier ∈ manager.identifiers
  within : NamesWithin manager.current manager.versions.size

namespace Tidy

variable {manager : Manager ω}

theorem empty : ({} : Manager ω).Tidy := ⟨List.nodup_nil, nofun, nofun⟩

theorem find?_of_mem (tidy : manager.Tidy) {machine : Machine ω}
    (member : machine ∈ manager.machines) : manager.find? machine.identifier = some machine := by
  cases found : manager.find? machine.identifier with
  | none => exact absurd (List.mem_map_of_mem member) ((find?_eq_none_iff _ _).mp found)
  | some held =>
      exact congrArg some (List.inj_on_of_nodup_map tidy.distinct
        (List.mem_of_find?_eq_some found) member (find?_identifier found))

theorem add (tidy : manager.Tidy) (machine : Machine ω) : (manager.add machine).Tidy := by
  have identifiers : (manager.add machine).identifiers =
      Telemetry.registered manager.identifiers (.add machine) :=
    manager.identifiers_add machine
  have named_of_added : ∀ {identifier : String} {id : VersionId},
      (manager.add machine).current.get? identifier = some id →
        manager.current.get? identifier = some id := by
    intro identifier id named
    rw [get?_current_add] at named
    split at named
    · cases named
    · exact named
  constructor
  case distinct => rw [identifiers]; exact registered_nodup tidy.distinct _
  case owned =>
    intro identifier id named
    have isKnown := tidy.owned (named_of_added named)
    rw [identifiers, Telemetry.registered]
    split
    · exact isKnown
    · exact List.mem_append_left _ isKnown
  case within => exact tidy.within.add machine

/-- A machine that is registered takes the place of the one with its identifier. -/
theorem mem_add_cases (tidy : manager.Tidy) {machine member : Machine ω}
    (isMember : member ∈ (manager.add machine).machines) :
    member = machine ∨ member ∈ manager.machines ∧ member.identifier ≠ machine.identifier := by
  have found := (tidy.add machine).find?_of_mem isMember
  rw [find?_add] at found
  split at found
  · exact .inl (Option.some.inj found).symm
  · next differs => exact .inr ⟨List.mem_of_find?_eq_some found, Ne.symm differs⟩

theorem remove (tidy : manager.Tidy) (removed : String) : (manager.remove removed).Tidy := by
  have identifiers : (manager.remove removed).identifiers =
      Telemetry.registered manager.identifiers (.remove removed : ManagerMove ω) :=
    manager.identifiers_remove removed
  have named_of_kept : ∀ {identifier : String} {id : VersionId},
      (manager.remove removed).current.get? identifier = some id →
        removed ≠ identifier ∧ manager.current.get? identifier = some id := by
    intro identifier id named
    rw [Manager.remove, Entries.get?_erase] at named
    split at named
    · cases named
    · next differs => exact ⟨differs, named⟩
  constructor
  case distinct => rw [identifiers]; exact registered_nodup tidy.distinct _
  case owned =>
    intro identifier id named
    obtain ⟨differs, before⟩ := named_of_kept named
    rw [identifiers]
    exact List.mem_filter.mpr ⟨tidy.owned before, by simpa using Ne.symm differs⟩
  case within => exact tidy.within.remove removed

theorem withSettled (tidy : manager.Tidy) (id : VersionId) (state : Option MachineState) :
    (manager.withSettled id state).Tidy :=
  ⟨tidy.distinct, tidy.owned, (manager.size_withSettled id state).symm ▸ tidy.within⟩

theorem withDue (tidy : manager.Tidy) (event : ObservedEvent) {machine : Machine ω}
    (member : machine ∈ manager.machines) : (manager.withDue event machine).Tidy := by
  constructor
  case distinct => exact tidy.distinct
  case owned =>
    intro identifier id named
    rw [get?_current_withDue] at named
    split at named
    · next same => exact same ▸ List.mem_map_of_mem member
    · exact tidy.owned named
  case within => exact tidy.within.withDue event machine

theorem questions (tidy : manager.Tidy) {after : Manager ω} {world later : ω}
    (asked : Questions manager world after later) : after.Tidy := by
  obtain ⟨machines, current, size⟩ := asked.frame
  have identifiers : after.identifiers = manager.identifiers :=
    congrArg (List.map Machine.identifier) machines
  exact ⟨identifiers ▸ tidy.distinct, by rw [current, identifiers]; exact tidy.owned,
    by rw [current, size]; exact tidy.within⟩

end Tidy

/-! ### The entities of one machine -/

/-- The entities in the answers of the machines with an identifier. -/
def partOf (identifier : String) (machines : List (Machine ω))
    (answers : List (Option (List Entity))) : List Entity :=
  ((machines.zip answers).filter fun asked => asked.1.identifier == identifier).flatMap
    fun asked => asked.2.getD []

/-- The entities that the machine of an identifier gives to an event, of those that machines
give. -/
def entitiesBy (identifier : String) (manager : Manager ω) (world : ω) (event : ObservedEvent)
    (seen : Snapshot) : List Entity :=
  let machines := manager.concerned Subscriptions.entities event
  partOf identifier machines (answersInTurn (askEntities event) seen machines manager world)

theorem partOf_cons (identifier : String) (machine : Machine ω) (rest : List (Machine ω))
    (answer : Option (List Entity)) (answers : List (Option (List Entity))) :
    partOf identifier (machine :: rest) (answer :: answers) =
      (if machine.identifier = identifier then answer.getD [] else []) ++
        partOf identifier rest answers := by
  rw [partOf, List.zip_cons_cons]
  by_cases same : machine.identifier = identifier
  · rw [List.filter_cons_of_pos (by simpa using same), List.flatMap_cons, if_pos same]
    rfl
  · rw [List.filter_cons_of_neg (by simpa using same), if_neg same]
    rfl

theorem partOf_of_not_mem {identifier : String} {machines : List (Machine ω)}
    (absent : identifier ∉ machines.map Machine.identifier)
    (answers : List (Option (List Entity))) : partOf identifier machines answers = [] := by
  rw [partOf, List.filter_eq_nil_iff.mpr]
  · rfl
  · intro asked member same
    have isMachine : asked.1 ∈ machines := (List.of_mem_zip member).1
    exact absent (List.mem_map.mpr ⟨asked.1, isMachine, by simpa using same⟩)

theorem length_answersInTurn {α : Type} (ask : Machine ω → Option MachineState → ω → α × ω)
    (seen : Snapshot) (machines : List (Machine ω)) (manager : Manager ω) (world : ω) :
    (answersInTurn ask seen machines manager world).length = machines.length :=
  (answersInTurn_answers ask seen machines manager world).length_eq.symm

/-- The entities of an event are those of the machines that are asked, in order. -/
theorem entities_eq_flatMap_zip (manager : Manager ω) (world : ω) (event : ObservedEvent)
    (seen : Snapshot) :
    let machines := manager.concerned Subscriptions.entities event
    (manager.entities world event seen).1 =
      (machines.zip (answersInTurn (askEntities event) seen machines manager world)).flatMap
        fun asked => asked.2.getD [] := by
  intro machines
  let answers := answersInTurn (askEntities event) seen machines manager world
  have lengths : answers.length ≤ machines.length :=
    Nat.le_of_eq (length_answersInTurn _ seen machines manager world)
  have areAnswers : (machines.zip answers).map Prod.snd = answers :=
    List.map_snd_zip lengths
  calc (manager.entities world event seen).1
      = answers.flatMap fun answer => answer.getD [] :=
        entitiesOf_eq event seen machines manager world
    _ = ((machines.zip answers).map Prod.snd).flatMap fun answer => answer.getD [] := by
        rw [areAnswers]
    _ = (machines.zip answers).flatMap fun asked => asked.2.getD [] := List.flatMap_map _ _ _

theorem entitiesBy_sublist (identifier : String) (manager : Manager ω) (world : ω)
    (event : ObservedEvent) (seen : Snapshot) :
    (entitiesBy identifier manager world event seen).Sublist
      (manager.entities world event seen).1 := by
  rw [entities_eq_flatMap_zip]
  exact List.filter_sublist.flatMap _

end Manager

end Telemetry

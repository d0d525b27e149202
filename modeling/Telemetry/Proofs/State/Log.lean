import Mathlib.Logic.Function.Basic
import Telemetry.Proofs.State.Alike

/-!
Contract: a log of the transitions that machines run.

Owns:
- machines that log the transitions that they run, and the slots whose transitions they are;
- a manager of such machines with what was noted for each slot, and its steps;
- that the log changes nothing that a host can see.

Does not own: what the log says.

A slot begins when an identifier is registered that was not, or is taken over by a machine of
another kind. A machine of the same kind goes on with the slot.
-/

namespace Telemetry

variable {ω : Type}

/-- A transition that was noted or run: for which slot, and for which event. -/
structure Run where
  slot : Nat
  event : ObservedEvent

namespace Run

/-- The events of the transitions of one slot, in order. -/
def eventsOf (runs : List Run) (slot : Nat) : List ObservedEvent :=
  (runs.filter fun run => run.slot = slot).map Run.event

variable {runs : List Run} {slot : Nat}

theorem eventsOf_cons (run : Run) (runs : List Run) (slot : Nat) :
    eventsOf (run :: runs) slot =
      if run.slot = slot then run.event :: eventsOf runs slot else eventsOf runs slot := by
  by_cases same : run.slot = slot
  · simp [eventsOf, same]
  · simp [eventsOf, same]

theorem eventsOf_append (runs more : List Run) (slot : Nat) :
    eventsOf (runs ++ more) slot = eventsOf runs slot ++ eventsOf more slot := by
  rw [eventsOf, List.filter_append, List.map_append]
  rfl

theorem eventsOf_concat_self (runs : List Run) (slot : Nat) (event : ObservedEvent) :
    eventsOf (runs ++ [⟨slot, event⟩]) slot = eventsOf runs slot ++ [event] := by
  rw [eventsOf_append]
  simp [eventsOf]

theorem eventsOf_concat_other (runs : List Run) {slot other : Nat} (differs : other ≠ slot)
    (event : ObservedEvent) : eventsOf (runs ++ [⟨other, event⟩]) slot = eventsOf runs slot := by
  rw [eventsOf_append]
  simp [eventsOf, differs]

end Run

/-! ### Machines that log -/

namespace Machine

/-- The machine, which logs the transitions that it runs for a slot. -/
def logging (machine : Machine ω) (slot : Nat) : Machine (ω × List Run) where
  identifier := machine.identifier
  kind := machine.kind
  subscriptions := machine.subscriptions
  transition := fun event state (world, runs) =>
    let (next, after) := machine.transition event state world
    (next, after, runs ++ [⟨slot, event⟩])
  entities := fun event state (world, runs) =>
    let (given, after) := machine.entities event state world
    (given, after, runs)
  payloadValues := machine.payloadValues
  filter := fun event state (world, runs) =>
    let (vote, after) := machine.filter event state world
    (vote, after, runs)
  afterTrack := fun event (world, runs) => (machine.afterTrack event world, runs)

/-- A machine logs its transitions for a slot, and nothing else. -/
structure Logs (machine : Machine (ω × List Run)) (slot : Nat) : Prop where
  transition : ∀ event state world,
    (machine.transition event state world).2.2 = world.2 ++ [⟨slot, event⟩]
  entities : ∀ event state world, (machine.entities event state world).2.2 = world.2
  filter : ∀ event state world, (machine.filter event state world).2.2 = world.2
  afterTrack : ∀ event world, (machine.afterTrack event world).2 = world.2

theorem logs_logging (machine : Machine ω) (slot : Nat) : (machine.logging slot).Logs slot :=
  ⟨fun _ _ _ => rfl, fun _ _ _ => rfl, fun _ _ _ => rfl, fun _ _ => rfl⟩

end Machine

/-! ### A manager that is watched -/

/-- A manager of machines that log, with its world and the log. `slots` is how many slots there
were, `slotOf` the slot of an identifier that is registered, and `noted` what snapshots noted. -/
structure Watch (ω : Type) where
  world : ω × List Run
  manager : Manager (ω × List Run) := {}
  slots : Nat := 0
  slotOf : String → Nat := fun _ => 0
  noted : List Run := []

namespace Watch

/-- The events whose transitions were noted for a slot. -/
def notedFor (watch : Watch ω) (slot : Nat) : List ObservedEvent := Run.eventsOf watch.noted slot

/-- The events whose transitions were run for a slot. -/
def ranFor (watch : Watch ω) (slot : Nat) : List ObservedEvent := Run.eventsOf watch.world.2 slot

/-- The slot that a machine gets: the one of the machine whose place it takes if that is of its
kind, else a new one. -/
def slotFor (watch : Watch ω) (machine : Machine ω) : Nat :=
  if (watch.manager.find? machine.identifier).any fun held => held.kind = machine.kind then
    watch.slotOf machine.identifier
  else
    watch.slots

def register (watch : Watch ω) (machine : Machine ω) : Watch ω :=
  let slot := watch.slotFor machine
  { watch with
    manager := watch.manager.add (machine.logging slot)
    slotOf := Function.update watch.slotOf machine.identifier slot
    slots := max watch.slots (slot + 1) }

/-- The transition of a machine is noted for an event. -/
def note (watch : Watch ω) (event : ObservedEvent) (machine : Machine (ω × List Run)) : Watch ω :=
  { watch with
    manager := watch.manager.withDue event machine
    noted := watch.noted ++ [⟨watch.slotOf machine.identifier, event⟩] }

/-- What machines note for an event. -/
def notes (watch : Watch ω) (machines : List (Machine (ω × List Run))) (event : ObservedEvent) :
    List Run :=
  (machines.filter fun machine => machine.subscriptions.transitions.selects event.identifier).map
    fun machine => ⟨watch.slotOf machine.identifier, event⟩

/-- The watch when the manager and the world are others. -/
def leave (watch : Watch ω) (after : Manager (ω × List Run) × ω × List Run) : Watch ω :=
  { watch with manager := after.1, world := after.2 }

/-- Machines follow an event, in order. -/
def noteAll (watch : Watch ω) (event : ObservedEvent) (machines : List (Machine (ω × List Run))) :
    Watch ω :=
  let after := Manager.advanceAll event machines watch.manager watch.world
  { watch with
    manager := after.1
    world := after.2
    noted := watch.noted ++ watch.notes machines event }

def observe (watch : Watch ω) (event : ObservedEvent) : Watch ω :=
  watch.noteAll event watch.manager.machines

def use (watch : Watch ω) : ManagerUse ω → Watch ω
  | .move (.add machine) => watch.register machine
  | .move (.remove identifier) => watch.leave (watch.manager.remove identifier, watch.world)
  | .move (.observe event) => watch.observe event
  | .move (.read seen identifier) =>
    watch.leave (watch.manager.read watch.world seen identifier).2
  | .move (.elsewhere change) =>
    watch.leave (watch.manager, change watch.world.1, watch.world.2)
  | .entities event seen => watch.leave (watch.manager.entities watch.world event seen).2
  | .payloadValues event seen fields =>
    watch.leave (watch.manager.addPayloadValues watch.world event seen fields).2
  | .accepts event seen => watch.leave (watch.manager.accepts watch.world event seen).2
  | .afterTrack event => watch.leave (watch.manager, watch.manager.afterTrack watch.world event)

/-- What a host leaves that starts with an empty manager. -/
def after (world : ω) (uses : List (ManagerUse ω)) : Watch ω :=
  uses.foldl use { world := (world, []) }

/-! ### Registration -/

theorem versions_register (watch : Watch ω) (machine : Machine ω) :
    (watch.register machine).manager.versions = watch.manager.versions :=
  Manager.add_versions _ _

theorem slotOf_register_self (watch : Watch ω) (machine : Machine ω) :
    (watch.register machine).slotOf machine.identifier = watch.slotFor machine :=
  Function.update_self _ _ _

theorem slotOf_register_of_ne (watch : Watch ω) {machine : Machine ω} {identifier : String}
    (differs : identifier ≠ machine.identifier) :
    (watch.register machine).slotOf identifier = watch.slotOf identifier :=
  Function.update_of_ne differs _ _

theorem get?_current_register_of_ne (watch : Watch ω) {machine : Machine ω} {identifier : String}
    (differs : identifier ≠ machine.identifier) :
    (watch.register machine).manager.current.get? identifier =
      watch.manager.current.get? identifier := by
  rw [register, Manager.get?_current_add, if_neg]
  rintro ⟨same, -⟩
  exact differs same.symm

/-! ### Notes -/

theorem notes_cons (watch : Watch ω) (machine : Machine (ω × List Run))
    (rest : List (Machine (ω × List Run))) (event : ObservedEvent) :
    watch.notes (machine :: rest) event =
      if machine.subscriptions.transitions.selects event.identifier then
        ⟨watch.slotOf machine.identifier, event⟩ :: watch.notes rest event
      else
        watch.notes rest event := by
  rw [notes, List.filter_cons]
  split <;> rfl

/-- Nothing is noted for a slot that none of the machines has. -/
theorem eventsOf_notes_of_apart (watch : Watch ω) (event : ObservedEvent)
    {machines : List (Machine (ω × List Run))} {slot : Nat}
    (apart : ∀ machine ∈ machines, watch.slotOf machine.identifier ≠ slot) :
    Run.eventsOf (watch.notes machines event) slot = [] := by
  induction machines with
  | nil => rfl
  | cons machine rest inductionHypothesis =>
      obtain ⟨differs, restApart⟩ := List.forall_mem_cons.mp apart
      rw [notes_cons]
      split
      · rw [Run.eventsOf_cons, if_neg differs]
        exact inductionHypothesis restApart
      · exact inductionHypothesis restApart

/-- Of machines with different slots each notes the event once, if it follows it. -/
theorem eventsOf_notes (watch : Watch ω) (event : ObservedEvent)
    {machines : List (Machine (ω × List Run))} (distinct : machines.Nodup)
    (apart : ∀ machine ∈ machines, ∀ other ∈ machines,
      watch.slotOf machine.identifier = watch.slotOf other.identifier → machine = other)
    {machine : Machine (ω × List Run)} (member : machine ∈ machines) :
    Run.eventsOf (watch.notes machines event) (watch.slotOf machine.identifier) =
      if machine.subscriptions.transitions.selects event.identifier then [event] else [] := by
  induction machines with
  | nil => cases member
  | cons first rest inductionHypothesis =>
      obtain ⟨isNew, restDistinct⟩ := List.nodup_cons.mp distinct
      have restApart : ∀ machine ∈ rest, ∀ other ∈ rest,
          watch.slotOf machine.identifier = watch.slotOf other.identifier → machine = other :=
        fun machine isMachine other isOther =>
          apart machine (.tail _ isMachine) other (.tail _ isOther)
      rw [notes_cons]
      rcases List.mem_cons.mp member with rfl | isLater
      · have noneElse : Run.eventsOf (watch.notes rest event)
            (watch.slotOf machine.identifier) = [] := by
          refine watch.eventsOf_notes_of_apart event fun other isOther same => isNew ?_
          rw [apart machine member other (.tail _ isOther) same.symm]
          exact isOther
        split
        · rw [Run.eventsOf_cons, if_pos rfl, noneElse]
        · exact noneElse
      · have differs : watch.slotOf first.identifier ≠ watch.slotOf machine.identifier := by
          intro same
          rw [apart first (.head _) machine member same] at isNew
          exact isNew isLater
        split
        · rw [Run.eventsOf_cons, if_neg differs]
          exact inductionHypothesis restDistinct restApart isLater
        · exact inductionHypothesis restDistinct restApart isLater

theorem after_concat (world : ω) (uses : List (ManagerUse ω)) (use : ManagerUse ω) :
    after world (uses ++ [use]) = (after world uses).use use := by
  rw [after, List.foldl_append]
  rfl

/-! ### The log is not seen -/

/-- Two worlds are the same but for the log, and states are the same. -/
def unseen (ω : Type) : Likeness (ω × List Run) ω where
  worlds := fun world parallel => world.1 = parallel
  states := fun _ => Eq
  none := fun _ => rfl

theorem fits_unseen (kindOf : VersionId → MachineKind) (machines : List (Machine (ω × List Run)))
    (seen : Snapshot) : Manager.Fits (unseen ω) kindOf machines seen :=
  fun _ _ _ _ _ _ same => same

/-- A machine that logs acts as the machine does. -/
theorem alike_logging (machine : Machine ω) (slot : Nat) :
    (machine.logging slot).Alike (unseen ω) machine := by
  constructor
  case identifier => rfl
  case kind => rfl
  case subscriptions => rfl
  case transition =>
    rintro state _ ⟨world, runs⟩ _ event rfl rfl
    exact ⟨rfl, rfl⟩
  case entities =>
    rintro state _ ⟨world, runs⟩ _ event rfl rfl
    exact ⟨rfl, rfl⟩
  case payloadValues =>
    rintro state _ event rfl
    rfl
  case filter =>
    rintro state _ ⟨world, runs⟩ _ event rfl rfl
    exact ⟨rfl, rfl⟩
  case afterTrack =>
    rintro ⟨world, runs⟩ _ event rfl
    rfl

/-- The watch shows what a manager and its world would be without the log. -/
def Shows (watch : Watch ω) (manager : Manager ω) (world : ω) : Prop :=
  Manager.AlikeAfter (unseen ω) watch.manager watch.world manager world

variable {watch : Watch ω} {manager : Manager ω} {world : ω}

theorem Shows.use (shows : watch.Shows manager world) (use : ManagerUse ω) :
    (watch.use use).Shows (manager.use world use).1 (manager.use world use).2 := by
  obtain ⟨⟨kindOf, alike⟩, worlds⟩ := shows
  have fits := fits_unseen kindOf watch.manager.machines
  cases use with
  | move move =>
      cases move with
      | add machine => exact ⟨⟨kindOf, alike.add (alike_logging machine _)⟩, worlds⟩
      | remove identifier => exact ⟨⟨kindOf, alike.remove identifier⟩, worlds⟩
      | observe event => exact (alike.snapshot worlds event).2
      | read seen identifier =>
          have fitsOne : ∀ id ∈ seen.get? identifier,
              (unseen ω).Includes (kindOf id) .lifecycle := fun _ _ _ _ same => same
          obtain ⟨-, managers, after⟩ := alike.read worlds fitsOne
          exact ⟨⟨kindOf, managers⟩, after⟩
      | elsewhere change => exact ⟨⟨kindOf, alike⟩, congrArg change worlds⟩
  | entities event seen =>
      have answered := alike.entities worlds event (fits seen)
      exact ⟨⟨kindOf, answered.managers⟩, answered.worlds⟩
  | payloadValues event seen fields =>
      have answered := alike.addPayloadValues worlds event (fits seen) fields
      exact ⟨⟨kindOf, answered.managers⟩, answered.worlds⟩
  | accepts event seen =>
      have answered := alike.accepts worlds event (fits seen)
      exact ⟨⟨kindOf, answered.managers⟩, answered.worlds⟩
  | afterTrack event => exact ⟨⟨kindOf, alike⟩, alike.afterTrack worlds event⟩

/-- Whatever a host does, it sees of a manager what it would see without the log. -/
theorem shows_after (world : ω) (uses : List (ManagerUse ω)) :
    (after world uses).Shows (({} : Manager ω).useAll world uses).1
      (({} : Manager ω).useAll world uses).2 := by
  induction uses using List.reverseRecOn with
  | nil => exact ⟨⟨fun _ => .lifecycle, Manager.alike_empty _ _⟩, rfl⟩
  | append_singleton uses use inductionHypothesis =>
      rw [after_concat, Manager.useAll_append]
      exact inductionHypothesis.use use

end Watch

end Telemetry

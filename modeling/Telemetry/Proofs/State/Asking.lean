import Telemetry.Proofs.State.Registration

/-!
Contract: what a manager does to the world when it asks its machines.

Owns:
- the machines that a manager knows, registered or needed for a version that is due;
- that asking machines does to the world what the machines do to it, one after the other,
  and leaves the machines;
- the votes of all machines, and that an event is accepted if none of them rejects it.

Does not own: the states that are read meanwhile.
-/

namespace Telemetry

variable {ω : Type}

/-- A relation of worlds that holds of no change, and of several changes in a row. -/
structure Cumulative (moves : ω → ω → Prop) : Prop where
  still : ∀ world, moves world world
  along : ∀ {first second third}, moves first second → moves second third → moves first third

/-- What a machine does to the world when it is asked for a state, entities or a vote. -/
structure Machine.Respects (machine : Machine ω) (moves : ω → ω → Prop) : Prop where
  transition : ∀ event state world, moves world (machine.transition event state world).2
  entities : ∀ event state world, moves world (machine.entities event state world).2
  filter : ∀ event state world, moves world (machine.filter event state world).2

namespace Manager

/-- All machines of a manager are of some sort: the registered ones, and those that a
version which is due comes from. -/
structure Knows (manager : Manager ω) (sort : Machine ω → Prop) : Prop where
  registered : ∀ machine ∈ manager.machines, sort machine
  due : ∀ {id : VersionId} {event : ObservedEvent} {previous : Option VersionId}
    {machine : Machine ω},
      manager.versions[id]? = some (.due event previous machine) → sort machine

variable {sort : Machine ω → Prop} {moves : ω → ω → Prop} {manager : Manager ω} {world : ω}

theorem Knows.add (knows : manager.Knows sort) {machine : Machine ω} (isSort : sort machine) :
    (manager.add machine).Knows sort := by
  constructor
  case registered =>
    intro member isMember
    rcases mem_add isMember with rfl | old
    · exact isSort
    · exact knows.registered member old
  case due => rw [add_versions]; exact knows.due

theorem Knows.remove (knows : manager.Knows sort) (identifier : String) :
    (manager.remove identifier).Knows sort :=
  ⟨fun machine isMember => knows.registered machine (List.mem_filter.mp isMember).1, knows.due⟩

/-! ### Asking machines -/

/-- What asking machines leaves: the same machines, and a world that they moved. -/
structure Asked (sort : Machine ω → Prop) (moves : ω → ω → Prop) (manager : Manager ω)
    (world : ω) (after : Manager ω) (later : ω) : Prop where
  knows : after.Knows sort
  machines : after.machines = manager.machines
  moved : moves world later

theorem Asked.trans (cumulative : Cumulative moves) {after last : Manager ω} {later final : ω}
    (first : Asked sort moves manager world after later)
    (second : Asked sort moves after later last final) :
    Asked sort moves manager world last final :=
  ⟨second.knows, second.machines.trans first.machines,
    cumulative.along first.moved second.moved⟩

variable (cumulative : Cumulative moves)
  (respects : ∀ machine, sort machine → machine.Respects moves)

include cumulative

theorem Knows.asked_nothing (knows : manager.Knows sort) (world : ω) :
    Asked sort moves manager world manager world :=
  ⟨knows, rfl, cumulative.still world⟩

include respects

theorem Knows.settleWithin (knows : manager.Knows sort) (bound : Nat) (world : ω)
    (id : VersionId) :
    Asked sort moves manager world (settleWithin bound manager world id).2.1
      (settleWithin bound manager world id).2.2 := by
  induction bound generalizing manager world id with
  | zero => exact knows.asked_nothing cumulative world
  | succ bound inductionHypothesis =>
      rw [Manager.settleWithin]
      split
      · exact knows.asked_nothing cumulative world
      · exact knows.asked_nothing cumulative world
      · next event previous machine isDue =>
        -- A settled version needs no machine, so whatever is known of the others stays.
        have settles : ∀ {after : Manager ω} {later : ω} (before state : Option MachineState),
            Asked sort moves manager world after later →
              Asked sort moves manager world
                { after with versions := after.versions.setIfInBounds id (.settled state) }
                (machine.transition event before later).2 := by
          intro after later before state asked
          refine ⟨⟨asked.knows.registered, ?_⟩, asked.machines, ?_⟩
          · intro other noted earlier follower
            simp only [Array.getElem?_setIfInBounds]
            split
            · split <;> exact nofun
            · exact asked.knows.due
          · exact cumulative.along asked.moved
              ((respects machine (knows.due isDue)).transition event before later)
        cases previous with
        | none => exact settles none _ (knows.asked_nothing cumulative world)
        | some before => exact settles _ _ (inductionHypothesis knows world before)

theorem Knows.read (knows : manager.Knows sort) (world : ω) (seen : Snapshot)
    (identifier : String) :
    Asked sort moves manager world (manager.read world seen identifier).2.1
      (manager.read world seen identifier).2.2 := by
  unfold Manager.read
  split
  · exact knows.asked_nothing cumulative world
  · exact knows.settleWithin cumulative respects _ world _

theorem Knows.advance (knows : manager.Knows sort) (world : ω) (event : ObservedEvent)
    {machine : Machine ω} (isSort : sort machine) :
    Asked sort moves manager world (manager.advance world event machine).1
      (manager.advance world event machine).2 := by
  have asked := knows.read cumulative respects world manager.current machine.identifier
  refine ⟨⟨asked.knows.registered, ?_⟩, asked.machines, asked.moved⟩
  intro id noted previous follower
  simp only [Manager.advance, Array.getElem?_push]
  split
  · intro isNew
    cases isNew
    exact isSort
  · exact asked.knows.due

theorem Knows.advanceAll (knows : manager.Knows sort) (world : ω) (event : ObservedEvent)
    {machines : List (Machine ω)} (areSort : ∀ machine ∈ machines, sort machine) :
    Asked sort moves manager world (advanceAll event machines manager world).1
      (advanceAll event machines manager world).2 := by
  induction machines generalizing manager world with
  | nil => exact knows.asked_nothing cumulative world
  | cons machine rest inductionHypothesis =>
      have restSort : ∀ other ∈ rest, sort other :=
        fun other member => areSort other (List.mem_cons_of_mem _ member)
      rw [Manager.advanceAll]
      split
      · have asked := knows.advance cumulative respects world event (areSort machine (by simp))
        exact asked.trans cumulative (inductionHypothesis asked.knows _ restSort)
      · exact inductionHypothesis knows world restSort

theorem Knows.snapshot (knows : manager.Knows sort) (world : ω) (event : ObservedEvent) :
    Asked sort moves manager world (manager.snapshot world event).2.1
      (manager.snapshot world event).2.2 :=
  knows.advanceAll cumulative respects world event knows.registered

theorem Knows.addValuesOf (knows : manager.Knows sort) (world : ω) (event : ObservedEvent)
    (seen : Snapshot) (machines : List (Machine ω)) (fields : Fields) :
    Asked sort moves manager world (addValuesOf event seen machines manager world fields).2.1
      (addValuesOf event seen machines manager world fields).2.2 := by
  induction machines generalizing manager world fields with
  | nil => exact knows.asked_nothing cumulative world
  | cons machine rest inductionHypothesis =>
      have asked := knows.read cumulative respects world seen machine.identifier
      exact asked.trans cumulative (inductionHypothesis asked.knows _ _)

theorem Knows.addPayloadValues (knows : manager.Knows sort) (world : ω) (event : ObservedEvent)
    (seen : Snapshot) (fields : Fields) :
    Asked sort moves manager world (manager.addPayloadValues world event seen fields).2.1
      (manager.addPayloadValues world event seen fields).2.2 :=
  knows.addValuesOf cumulative respects world event seen _ fields

theorem Knows.entitiesOf (knows : manager.Knows sort) (world : ω) (event : ObservedEvent)
    (seen : Snapshot) {machines : List (Machine ω)}
    (areSort : ∀ machine ∈ machines, sort machine) :
    Asked sort moves manager world (entitiesOf event seen machines manager world).2.1
      (entitiesOf event seen machines manager world).2.2 := by
  induction machines generalizing manager world with
  | nil => exact knows.asked_nothing cumulative world
  | cons machine rest inductionHypothesis =>
      have restSort : ∀ other ∈ rest, sort other :=
        fun other member => areSort other (List.mem_cons_of_mem _ member)
      have asked := knows.read cumulative respects world seen machine.identifier
      have given := (respects machine (areSort machine (by simp))).entities event
        (manager.read world seen machine.identifier).1
        (manager.read world seen machine.identifier).2.2
      have both : Asked sort moves manager world _ _ :=
        ⟨asked.knows, asked.machines, cumulative.along asked.moved given⟩
      exact both.trans cumulative (inductionHypothesis asked.knows _ restSort)

theorem Knows.entities (knows : manager.Knows sort) (world : ω) (event : ObservedEvent)
    (seen : Snapshot) :
    Asked sort moves manager world (manager.entities world event seen).2.1
      (manager.entities world event seen).2.2 :=
  knows.entitiesOf cumulative respects world event seen fun machine member =>
    knows.registered machine (List.mem_filter.mp member).1

theorem Knows.votesOf (knows : manager.Knows sort) (world : ω) (event : ObservedEvent)
    (seen : Snapshot) {machines : List (Machine ω)}
    (areSort : ∀ machine ∈ machines, sort machine) :
    Asked sort moves manager world (votesOf event seen machines manager world).2.1
      (votesOf event seen machines manager world).2.2 := by
  induction machines generalizing manager world with
  | nil => exact knows.asked_nothing cumulative world
  | cons machine rest inductionHypothesis =>
      have restSort : ∀ other ∈ rest, sort other :=
        fun other member => areSort other (List.mem_cons_of_mem _ member)
      have asked := knows.read cumulative respects world seen machine.identifier
      have voted := (respects machine (areSort machine (by simp))).filter event
        (manager.read world seen machine.identifier).1
        (manager.read world seen machine.identifier).2.2
      have both : Asked sort moves manager world _ _ :=
        ⟨asked.knows, asked.machines, cumulative.along asked.moved voted⟩
      simp only [Manager.votesOf]
      split
      · exact both
      · exact both.trans cumulative (inductionHypothesis asked.knows _ restSort)

theorem Knows.accepts (knows : manager.Knows sort) (world : ω) (event : ObservedEvent)
    (seen : Snapshot) :
    Asked sort moves manager world (manager.accepts world event seen).2.1
      (manager.accepts world event seen).2.2 :=
  knows.votesOf cumulative respects world event seen fun machine member =>
    knows.registered machine (List.mem_filter.mp member).1

end Manager

/-! ### Votes -/

namespace Manager

/-- The votes of machines if all of them are asked, in order. -/
def castVotes (event : ObservedEvent) (seen : Snapshot) :
    List (Machine ω) → Manager ω → ω → List (Option Bool)
  | [], _, _ => []
  | machine :: rest, manager, world =>
    let (state, manager, world) := manager.read world seen machine.identifier
    let (vote, world) := machine.filter event state world
    vote :: castVotes event seen rest manager world

/-- Asking no further after a rejection makes no difference to the answer. -/
theorem votesOf_iff (event : ObservedEvent) (seen : Snapshot) (machines : List (Machine ω))
    (manager : Manager ω) (world : ω) :
    (votesOf event seen machines manager world).1 = true ↔
      some false ∉ castVotes event seen machines manager world := by
  induction machines generalizing manager world with
  | nil => simp [votesOf, castVotes]
  | cons machine rest inductionHypothesis =>
      simp only [votesOf, castVotes, List.mem_cons, not_or]
      split
      · next rejects =>
        exact ⟨nofun, fun both => absurd rejects.symm both.1⟩
      · next notRejected =>
        rw [inductionHypothesis]
        exact ⟨fun absent => ⟨fun rejects => notRejected rejects.symm, absent⟩, And.right⟩

end Manager

end Telemetry

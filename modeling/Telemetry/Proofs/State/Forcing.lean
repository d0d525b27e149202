import Telemetry.Proofs.State.Registration
import Telemetry.Proofs.State.Versions

/-!
Contract: what happens to versions when they are read, one step at a time.

Owns:
- that settling a version which is due runs one transition, as the version before it is settled;
- the steps that questions to a manager consist of, which every law about questions goes by;
- that questions leave what was settled, so a snapshot that was read shows the same again;
- noting an event as settling the version before, and then adding one that is due;
- that registering, asking and noting keep versions linked in this way.

Does not own: the values of versions, and the order of transitions.

Noting an event settles the version before the new one. So of the versions of a slot only the
newest can be due, and settling it reaches no further than one version back.
-/

namespace Telemetry

variable {ω : Type}

/-- The state of a version that is settled. -/
def Version.state? : Version ω → Option MachineState
  | .settled state => state
  | .due _ _ _ => none

namespace Manager

/-- The state of a version, if there is one and it is settled. -/
def settledState (manager : Manager ω) (id : Option VersionId) : Option MachineState :=
  (id.bind fun id => manager.versions[id]?).bind Version.state?

/-- The manager with a version settled. -/
def withSettled (manager : Manager ω) (id : VersionId) (state : Option MachineState) : Manager ω :=
  { manager with versions := manager.versions.setIfInBounds id (.settled state) }

/-- The version before one that is due is an earlier one and settled, and the latest versions are
there. -/
structure Linked (manager : Manager ω) : Prop where
  chained : ∀ {id : VersionId} {event : ObservedEvent} {previous : Option VersionId}
    {machine : Machine ω}, manager.versions[id]? = some (.due event previous machine) →
      ∀ before ∈ previous, before < id ∧ manager.isSettled before = true
  within : NamesWithin manager.current manager.versions.size

variable {manager : Manager ω} {id : VersionId} {event : ObservedEvent}
  {previous : Option VersionId} {machine : Machine ω}

theorem linked_empty : ({} : Manager ω).Linked := ⟨nofun, nofun⟩

theorem isSettled_iff : manager.isSettled id = true ↔
    ∃ state, manager.versions[id]? = some (.settled state) := by
  unfold isSettled
  cases manager.versions[id]? with
  | none => simp
  | some version => cases version <;> simp [Version.isSettled]

theorem isSettled_of_versions {other : Manager ω} (same : other.versions = manager.versions) :
    other.isSettled = manager.isSettled := by
  funext id
  rw [isSettled, isSettled, same]

theorem getElem?_withSettled (manager : Manager ω) (id other : VersionId)
    (state : Option MachineState) :
    (manager.withSettled id state).versions[other]? =
      if id = other ∧ id < manager.versions.size then
        some (.settled state)
      else
        manager.versions[other]? := by
  rw [withSettled, Array.getElem?_setIfInBounds]
  by_cases same : id = other
  · subst same
    by_cases inside : id < manager.versions.size
    · simp [inside]
    · simp [inside]
  · simp [same]

theorem getElem?_withSettled_of_ne {other : VersionId} (state : Option MachineState)
    (differs : id ≠ other) :
    (manager.withSettled id state).versions[other]? = manager.versions[other]? := by
  rw [getElem?_withSettled, if_neg fun both => differs both.1]

theorem size_withSettled (manager : Manager ω) (id : VersionId) (state : Option MachineState) :
    (manager.withSettled id state).versions.size = manager.versions.size :=
  Array.size_setIfInBounds

/-- A version that is due then was so before, and is another one. -/
theorem due_of_withSettled {other : VersionId} {state : Option MachineState}
    (isDue : (manager.withSettled id state).versions[other]? =
      some (.due event previous machine)) :
    id ≠ other ∧ manager.versions[other]? = some (.due event previous machine) := by
  have differs : id ≠ other := by
    rintro rfl
    rw [getElem?_withSettled] at isDue
    split at isDue
    · cases isDue
    · next outside => exact outside ⟨rfl, (Array.getElem?_eq_some_iff.mp isDue).1⟩
  rw [getElem?_withSettled_of_ne state differs] at isDue
  exact ⟨differs, isDue⟩

theorem isSettled_withSettled {other : VersionId} (state : Option MachineState)
    (held : manager.isSettled other = true) :
    (manager.withSettled id state).isSettled other = true := by
  obtain ⟨before, isBefore⟩ := isSettled_iff.mp held
  rw [isSettled_iff, getElem?_withSettled]
  split
  · exact ⟨state, rfl⟩
  · exact ⟨before, isBefore⟩

/-! ### Settling one version -/

theorem settle_of_settled {state : Option MachineState}
    (isSettled : manager.versions[id]? = some (.settled state)) (world : ω) :
    manager.settle world id = (state, manager, world) := by
  simp only [settle, settleWithin, isSettled]

theorem settle_of_absent (absent : manager.versions[id]? = none) (world : ω) :
    manager.settle world id = (none, manager, world) := by
  simp only [settle, settleWithin, absent]

/-- Settling a version that is due runs its transition, and no other. -/
theorem settle_of_due (linked : manager.Linked)
    (isDue : manager.versions[id]? = some (.due event previous machine)) (world : ω) :
    manager.settle world id =
      let before := manager.settledState previous
      let next := machine.next world event before
      (next, manager.withSettled id next, (machine.transition event before world).2) := by
  cases previous with
  | none =>
      simp only [settle, settleWithin, isDue]
      rfl
  | some before =>
      obtain ⟨earlier, held⟩ := linked.chained isDue before rfl
      obtain ⟨state, isState⟩ := isSettled_iff.mp held
      have isBefore : manager.settledState (some before) = state := by
        rw [settledState, Option.bind_some, isState]
        rfl
      -- A version has come before, so the bound of the inner call is not exhausted.
      obtain ⟨bound, rfl⟩ : ∃ bound, id = bound + 1 :=
        Nat.exists_eq_add_one.mpr (Nat.zero_lt_of_lt earlier)
      simp only [settle, settleWithin, isDue, isState, isBefore]
      rfl

/-- Settling a version reaches no further than the version before it. -/
theorem settle_eq_settleWithin_two (linked : manager.Linked) (world : ω) (id : VersionId) :
    manager.settle world id = settleWithin 2 manager world id := by
  cases found : manager.versions[id]? with
  | none => simp only [settle, settleWithin, found]
  | some version =>
      cases version with
      | settled state => simp only [settle, settleWithin, found]
      | due event previous machine =>
          cases previous with
          | none => simp only [settle, settleWithin, found]
          | some before =>
              obtain ⟨earlier, held⟩ := linked.chained found before rfl
              obtain ⟨state, isState⟩ := isSettled_iff.mp held
              obtain ⟨bound, rfl⟩ : ∃ bound, id = bound + 1 :=
                Nat.exists_eq_add_one.mpr (Nat.zero_lt_of_lt earlier)
              simp only [settle, settleWithin, found, isState]

/-- Settling a version does nothing, or it runs the transition of one that is due. -/
theorem settle_cases (linked : manager.Linked) (world : ω) (id : VersionId) :
    (¬ (∃ event previous machine, manager.versions[id]? = some (.due event previous machine)) ∧
        (manager.settle world id).2 = (manager, world)) ∨
      ∃ event previous machine, manager.versions[id]? = some (.due event previous machine) ∧
        (manager.settle world id).2 =
          (manager.withSettled id
              (machine.next world event (manager.settledState previous)),
            (machine.transition event (manager.settledState previous) world).2) := by
  cases found : manager.versions[id]? with
  | none =>
      refine .inl ⟨?_, ?_⟩
      · rintro ⟨_, _, _, isDue⟩
        cases isDue
      · rw [settle_of_absent found]
  | some version =>
      cases version with
      | settled state =>
          refine .inl ⟨?_, ?_⟩
          · rintro ⟨_, _, _, isDue⟩
            cases isDue
          · rw [settle_of_settled found]
      | due event previous machine =>
          refine .inr ⟨event, previous, machine, rfl, ?_⟩
          rw [settle_of_due linked found]

theorem Linked.withSettled (linked : manager.Linked) (id : VersionId)
    (state : Option MachineState) : (manager.withSettled id state).Linked := by
  constructor
  case chained =>
    intro other event previous machine isDue before isBefore
    obtain ⟨earlier, held⟩ := linked.chained (due_of_withSettled isDue).2 before isBefore
    exact ⟨earlier, isSettled_withSettled state held⟩
  case within =>
    rw [size_withSettled]
    exact linked.within

theorem Linked.settle (linked : manager.Linked) (world : ω) (id : VersionId) :
    (manager.settle world id).2.1.Linked := by
  rcases settle_cases linked world id with ⟨_, same⟩ | ⟨_, _, _, _, settled⟩
  · rw [same]
    exact linked
  · rw [settled]
    exact linked.withSettled id _

theorem settleWithin_frame (bound : Nat) (manager : Manager ω) (world : ω) (id : VersionId) :
    (settleWithin bound manager world id).2.1.machines = manager.machines ∧
      (settleWithin bound manager world id).2.1.current = manager.current ∧
      (settleWithin bound manager world id).2.1.versions.size = manager.versions.size := by
  induction bound generalizing manager world id with
  | zero => exact ⟨rfl, rfl, rfl⟩
  | succ bound inductionHypothesis =>
      rw [settleWithin]
      split
      · exact ⟨rfl, rfl, rfl⟩
      · exact ⟨rfl, rfl, rfl⟩
      · next event previous machine _ =>
        cases previous with
        | none => exact ⟨rfl, rfl, Array.size_setIfInBounds⟩
        | some before =>
            obtain ⟨machines, current, size⟩ := inductionHypothesis manager world before
            exact ⟨machines, current, Array.size_setIfInBounds.trans size⟩

/-- A version that is settled stays so, whichever one is settled next. -/
theorem getElem?_settleWithin_of_settled {state : Option MachineState}
    (isSettled : manager.versions[id]? = some (.settled state)) (bound : Nat) (world : ω)
    (other : VersionId) :
    (settleWithin bound manager world other).2.1.versions[id]? = some (.settled state) := by
  induction bound generalizing manager world other with
  | zero => exact isSettled
  | succ bound inductionHypothesis =>
      rw [settleWithin]
      split
      · exact isSettled
      · exact isSettled
      · next event previous machine isDue =>
        have differs : other ≠ id := by
          rintro rfl
          rw [isSettled] at isDue
          cases isDue
        cases previous with
        | none => exact (Array.getElem?_setIfInBounds_ne differs).trans isSettled
        | some before =>
            exact (Array.getElem?_setIfInBounds_ne differs).trans
              (inductionHypothesis isSettled world before)

/-- What is answered is the state of the version from then on. -/
theorem getElem?_settle (manager : Manager ω) (world : ω) (inside : id < manager.versions.size) :
    (manager.settle world id).2.1.versions[id]? =
      some (.settled (manager.settle world id).1) := by
  rw [settle, settleWithin]
  split
  · next absent =>
    exact absurd inside (Nat.not_lt.mpr (Array.getElem?_eq_none_iff.mp absent))
  · next isSettled => exact isSettled
  · next event previous machine isDue =>
    cases previous with
    | none => exact Array.getElem?_setIfInBounds_self_of_lt inside
    | some before =>
        refine Array.getElem?_setIfInBounds_self_of_lt ?_
        rw [(settleWithin_frame id manager world before).2.2]
        exact inside

theorem isSettled_settle (manager : Manager ω) (world : ω)
    (inside : id < manager.versions.size) :
    (manager.settle world id).2.1.isSettled id = true :=
  isSettled_iff.mpr ⟨_, manager.getElem?_settle world inside⟩

/-! ### Questions -/

/-- What questions to the machines of a manager consist of: a version is settled, or one of the
machines acts on the world as it is asked for entities or a vote. -/
inductive Questions (manager : Manager ω) (world : ω) : Manager ω → ω → Prop where
  | nothing : Questions manager world manager world
  | settle {after : Manager ω} {later : ω} (id : VersionId) :
      Questions manager world after later →
        Questions manager world (after.settle later id).2.1 (after.settle later id).2.2
  | entities {after : Manager ω} {later : ω} {machine : Machine ω} (event : ObservedEvent)
      (state : Option MachineState) :
      Questions manager world after later → machine ∈ after.machines →
        Questions manager world after (machine.entities event state later).2
  | filter {after : Manager ω} {later : ω} {machine : Machine ω} (event : ObservedEvent)
      (state : Option MachineState) :
      Questions manager world after later → machine ∈ after.machines →
        Questions manager world after (machine.filter event state later).2

variable {world later : ω} {after : Manager ω}

theorem Questions.trans {last : Manager ω} {final : ω}
    (first : Questions manager world after later) (second : Questions after later last final) :
    Questions manager world last final := by
  induction second with
  | nothing => exact first
  | settle id _ inductionHypothesis => exact .settle id inductionHypothesis
  | entities event state _ member inductionHypothesis =>
      exact .entities event state inductionHypothesis member
  | filter event state _ member inductionHypothesis =>
      exact .filter event state inductionHypothesis member

/-- Questions neither register machines nor note events. -/
theorem Questions.frame (asked : Questions manager world after later) :
    after.machines = manager.machines ∧ after.current = manager.current ∧
      after.versions.size = manager.versions.size := by
  induction asked with
  | nothing => exact ⟨rfl, rfl, rfl⟩
  | @settle reached final id _ inductionHypothesis =>
      obtain ⟨machines, current, size⟩ := inductionHypothesis
      obtain ⟨sameMachines, sameCurrent, sameSize⟩ :=
        settleWithin_frame (id + 1) reached final id
      exact ⟨sameMachines.trans machines, sameCurrent.trans current, sameSize.trans size⟩
  | entities event state _ _ inductionHypothesis => exact inductionHypothesis
  | filter event state _ _ inductionHypothesis => exact inductionHypothesis

theorem questions_read (manager : Manager ω) (world : ω) (seen : Snapshot) (identifier : String) :
    Questions manager world (manager.read world seen identifier).2.1
      (manager.read world seen identifier).2.2 := by
  unfold read
  split
  · exact .nothing
  · next id _ => exact .settle id .nothing

theorem questions_entitiesOf (event : ObservedEvent) (seen : Snapshot)
    {machines : List (Machine ω)} (world : ω) (registered : machines ⊆ manager.machines) :
    Questions manager world (entitiesOf event seen machines manager world).2.1
      (entitiesOf event seen machines manager world).2.2 := by
  induction machines generalizing manager world with
  | nil => exact .nothing
  | cons machine rest inductionHypothesis =>
      obtain ⟨isMachine, areRest⟩ := List.cons_subset.mp registered
      have read := manager.questions_read world seen machine.identifier
      have same := read.frame.1
      have given := read.entities event (manager.read world seen machine.identifier).1
        (same ▸ isMachine)
      exact given.trans (inductionHypothesis _ (same ▸ areRest))

theorem questions_entities (manager : Manager ω) (world : ω) (event : ObservedEvent)
    (seen : Snapshot) :
    Questions manager world (manager.entities world event seen).2.1
      (manager.entities world event seen).2.2 :=
  questions_entitiesOf event seen world List.filter_sublist.subset

theorem questions_addValuesOf (event : ObservedEvent) (seen : Snapshot)
    (machines : List (Machine ω)) (manager : Manager ω) (world : ω) (fields : Fields) :
    Questions manager world (addValuesOf event seen machines manager world fields).2.1
      (addValuesOf event seen machines manager world fields).2.2 := by
  induction machines generalizing manager world fields with
  | nil => exact .nothing
  | cons machine rest inductionHypothesis =>
      exact (manager.questions_read world seen machine.identifier).trans
        (inductionHypothesis _ _ _)

theorem questions_addPayloadValues (manager : Manager ω) (world : ω) (event : ObservedEvent)
    (seen : Snapshot) (fields : Fields) :
    Questions manager world (manager.addPayloadValues world event seen fields).2.1
      (manager.addPayloadValues world event seen fields).2.2 :=
  questions_addValuesOf event seen _ manager world fields

theorem questions_votesOf (event : ObservedEvent) (seen : Snapshot)
    {machines : List (Machine ω)} (world : ω) (registered : machines ⊆ manager.machines) :
    Questions manager world (votesOf event seen machines manager world).2.1
      (votesOf event seen machines manager world).2.2 := by
  induction machines generalizing manager world with
  | nil => exact .nothing
  | cons machine rest inductionHypothesis =>
      obtain ⟨isMachine, areRest⟩ := List.cons_subset.mp registered
      have read := manager.questions_read world seen machine.identifier
      have same := read.frame.1
      have voted := read.filter event (manager.read world seen machine.identifier).1
        (same ▸ isMachine)
      simp only [votesOf]
      split
      · exact voted
      · exact voted.trans (inductionHypothesis _ (same ▸ areRest))

theorem questions_accepts (manager : Manager ω) (world : ω) (event : ObservedEvent)
    (seen : Snapshot) :
    Questions manager world (manager.accepts world event seen).2.1
      (manager.accepts world event seen).2.2 :=
  questions_votesOf event seen world List.filter_sublist.subset

theorem Linked.questions (linked : manager.Linked) (asked : Questions manager world after later) :
    after.Linked := by
  induction asked with
  | nothing => exact linked
  | settle id _ inductionHypothesis => exact inductionHypothesis.settle _ id
  | entities event state _ _ inductionHypothesis => exact inductionHypothesis
  | filter event state _ _ inductionHypothesis => exact inductionHypothesis

/-- Questions leave what was settled. -/
theorem Questions.keeps_settled {state : Option MachineState}
    (asked : Questions manager world after later)
    (isSettled : manager.versions[id]? = some (.settled state)) :
    after.versions[id]? = some (.settled state) := by
  induction asked with
  | nothing => exact isSettled
  | settle other _ inductionHypothesis =>
      exact getElem?_settleWithin_of_settled inductionHypothesis _ _ other
  | entities event state _ _ inductionHypothesis => exact inductionHypothesis
  | filter event state _ _ inductionHypothesis => exact inductionHypothesis

/-- What a snapshot shows is fixed once it was read. -/
theorem read_again (manager : Manager ω) (world elsewhere : ω) (seen : Snapshot)
    (identifier : String)
    (asked : Questions (manager.read world seen identifier).2.1
      (manager.read world seen identifier).2.2 after later) :
    (after.read elsewhere seen identifier).1 = (manager.read world seen identifier).1 := by
  unfold read at asked ⊢
  split
  · rfl
  · next id isNamed =>
    simp only [isNamed] at asked
    by_cases inside : id < manager.versions.size
    · rw [settle_of_settled (asked.keeps_settled (manager.getElem?_settle world inside))]
    · have absent : manager.versions[id]? = none :=
        Array.getElem?_eq_none_iff.mpr (Nat.not_lt.mp inside)
      have size := asked.frame.2.2
      rw [settle_of_absent absent] at size ⊢
      have absentAfter : after.versions[id]? = none :=
        Array.getElem?_eq_none_iff.mpr (size.symm ▸ Nat.not_lt.mp inside)
      rw [settle_of_absent absentAfter]

/-- Asking a machine for entities settles the version that the snapshot names of it. -/
theorem isSettled_entitiesOf (world : ω) (event : ObservedEvent) {seen : Snapshot}
    {machines : List (Machine ω)} (registered : machines ⊆ manager.machines)
    (member : machine ∈ machines) (named : seen.get? machine.identifier = some id)
    (inside : id < manager.versions.size) :
    (entitiesOf event seen machines manager world).2.1.isSettled id = true := by
  induction machines generalizing manager world with
  | nil => cases member
  | cons first rest inductionHypothesis =>
      obtain ⟨isFirst, areRest⟩ := List.cons_subset.mp registered
      have read := manager.questions_read world seen first.identifier
      obtain ⟨machines, -, size⟩ := read.frame
      have restRegistered : rest ⊆ (manager.read world seen first.identifier).2.1.machines :=
        machines ▸ areRest
      rw [entitiesOf]
      rcases List.mem_cons.mp member with rfl | isLater
      · have settled : (manager.read world seen machine.identifier).2.1.isSettled id = true := by
          rw [Manager.read, named]
          exact manager.isSettled_settle world inside
        obtain ⟨state, isState⟩ := isSettled_iff.mp settled
        exact isSettled_iff.mpr
          ⟨state, (questions_entitiesOf event seen _ restRegistered).keeps_settled isState⟩
      · exact inductionHypothesis _ restRegistered isLater (size.symm ▸ inside)

/-! ### Noting an event -/

/-- The manager with one more version, which is due for a machine and an event. -/
def withDue (manager : Manager ω) (event : ObservedEvent) (machine : Machine ω) : Manager ω :=
  { manager with
    current := manager.current.insert machine.identifier manager.versions.size
    versions := manager.versions.push
      (.due event (manager.current.get? machine.identifier) machine) }

theorem getElem?_withDue (manager : Manager ω) (event : ObservedEvent) (machine : Machine ω)
    (id : VersionId) :
    (manager.withDue event machine).versions[id]? =
      if id = manager.versions.size then
        some (.due event (manager.current.get? machine.identifier) machine)
      else
        manager.versions[id]? :=
  Array.getElem?_push

theorem size_withDue (manager : Manager ω) (event : ObservedEvent) (machine : Machine ω) :
    (manager.withDue event machine).versions.size = manager.versions.size + 1 :=
  Array.size_push _

theorem getElem?_withDue_self (manager : Manager ω) (event : ObservedEvent) (machine : Machine ω) :
    (manager.withDue event machine).versions[manager.versions.size]? =
      some (.due event (manager.current.get? machine.identifier) machine) := by
  rw [getElem?_withDue, if_pos rfl]

theorem getElem?_withDue_of_lt (event : ObservedEvent) (machine : Machine ω)
    (inside : id < manager.versions.size) :
    (manager.withDue event machine).versions[id]? = manager.versions[id]? := by
  rw [getElem?_withDue, if_neg (Nat.ne_of_lt inside)]

/-- A version that is due then is the new one, or was so before. -/
theorem due_of_withDue {noted : ObservedEvent} {follower : Machine ω}
    (isDue : (manager.withDue event machine).versions[id]? = some (.due noted previous follower)) :
    (id = manager.versions.size ∧ noted = event ∧
        previous = manager.current.get? machine.identifier ∧ follower = machine) ∨
      (id < manager.versions.size ∧
        manager.versions[id]? = some (.due noted previous follower)) := by
  rw [getElem?_withDue] at isDue
  split at isDue
  · next isNew =>
    obtain ⟨rfl, rfl, rfl⟩ := Version.due.inj (Option.some.inj isDue)
    exact .inl ⟨isNew, rfl, rfl, rfl⟩
  · exact .inr ⟨(Array.getElem?_eq_some_iff.mp isDue).1, isDue⟩

theorem get?_current_withDue (manager : Manager ω) (event : ObservedEvent) (machine : Machine ω)
    (identifier : String) :
    (manager.withDue event machine).current.get? identifier =
      if machine.identifier = identifier then
        some manager.versions.size
      else
        manager.current.get? identifier :=
  Entries.get?_insert _ _ _ _

theorem isSettled_withDue (event : ObservedEvent) (machine : Machine ω)
    (held : manager.isSettled id = true) :
    (manager.withDue event machine).isSettled id = true := by
  obtain ⟨state, isState⟩ := isSettled_iff.mp held
  have inside : id < manager.versions.size := (Array.getElem?_eq_some_iff.mp isState).1
  rw [isSettled_iff, getElem?_withDue_of_lt event machine inside]
  exact ⟨state, isState⟩

theorem NamesWithin.withDue (within : NamesWithin manager.current manager.versions.size)
    (event : ObservedEvent) (machine : Machine ω) :
    NamesWithin (manager.withDue event machine).current
      (manager.withDue event machine).versions.size := by
  intro identifier id named
  rw [size_withDue]
  rw [get?_current_withDue] at named
  split at named
  · cases named
    exact Nat.lt_succ_self _
  · exact Nat.lt_succ_of_lt (within identifier id named)

/-- A machine follows an event in two steps: the version before is settled, and the new one is
noted. -/
theorem advance_eq (manager : Manager ω) (world : ω) (event : ObservedEvent)
    (machine : Machine ω) :
    manager.advance world event machine =
      ((manager.state world machine.identifier).2.1.withDue event machine,
        (manager.state world machine.identifier).2.2) := by
  have current : (manager.state world machine.identifier).2.1.current = manager.current :=
    (manager.questions_read world manager.current machine.identifier).frame.2.1
  simp only [advance, withDue, current]

theorem isSettled_state (linked : manager.Linked) (world : ω) (identifier : String) :
    ∀ before ∈ manager.current.get? identifier,
      (manager.state world identifier).2.1.isSettled before = true := by
  intro before isBefore
  rw [state, read, isBefore]
  exact manager.isSettled_settle world (linked.within identifier before isBefore)

theorem Linked.withDue (linked : manager.Linked) (event : ObservedEvent)
    (held : ∀ before ∈ manager.current.get? machine.identifier, manager.isSettled before = true) :
    (manager.withDue event machine).Linked := by
  constructor
  case chained =>
    intro id other previous follower isDue before isBefore
    rcases due_of_withDue isDue with ⟨isNew, -, rfl, -⟩ | ⟨-, wasDue⟩
    · rw [isNew]
      exact ⟨linked.within machine.identifier before isBefore,
        isSettled_withDue event machine (held before isBefore)⟩
    · obtain ⟨earlier, isSettled⟩ := linked.chained wasDue before isBefore
      exact ⟨earlier, isSettled_withDue event machine isSettled⟩
  case within => exact linked.within.withDue event machine

/-! ### Registration -/

theorem NamesWithin.add (within : NamesWithin manager.current manager.versions.size)
    (machine : Machine ω) :
    NamesWithin (manager.add machine).current (manager.add machine).versions.size := by
  intro identifier id named
  rw [get?_current_add] at named
  rw [add_versions]
  split at named
  · cases named
  · exact within identifier id named

theorem NamesWithin.remove (within : NamesWithin manager.current manager.versions.size)
    (removed : String) : NamesWithin (manager.remove removed).current manager.versions.size := by
  intro identifier id named
  rw [Manager.remove, Entries.get?_erase] at named
  split at named
  · cases named
  · exact within identifier id named

theorem Linked.add (linked : manager.Linked) (machine : Machine ω) :
    (manager.add machine).Linked := by
  constructor
  case chained =>
    rw [isSettled_of_versions (add_versions manager machine), add_versions]
    exact linked.chained
  case within => exact linked.within.add machine

theorem Linked.remove (linked : manager.Linked) (identifier : String) :
    (manager.remove identifier).Linked :=
  ⟨linked.chained, linked.within.remove identifier⟩

end Manager

end Telemetry

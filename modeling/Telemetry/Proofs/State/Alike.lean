import Mathlib.Data.List.Forall2
import Mathlib.Data.List.Nodup
import Mathlib.Logic.Function.Basic
import Telemetry.Proofs.State.Uses

/-!
Contract: managers whose machines act alike answer alike.

Owns:
- what two runs have in common: a relation of their worlds, and one of states for each kind of
  machine;
- machines that act alike in related worlds and states, and managers that hold such machines;
- that whatever is asked of two such managers is answered the same, and leaves them alike.

Does not own: which machines act alike.
-/

namespace Telemetry

variable {ω υ : Type}

/-- What two runs have in common: their worlds are related, and so are the states of machines, in
a way of their own for each kind. No state is related to none. -/
structure Likeness (ω υ : Type) where
  worlds : ω → υ → Prop
  states : MachineKind → Option MachineState → Option MachineState → Prop
  none : ∀ kind, states kind none none

namespace Likeness

/-- States that are related in the way of one kind are so in the way of another. -/
def Includes (likeness : Likeness ω υ) (kind wider : MachineKind) : Prop :=
  ∀ state mirrored, likeness.states kind state mirrored → likeness.states wider state mirrored

end Likeness

/-- Two machines act alike: asked in related worlds about related states they answer the same, and
leave related worlds and states. -/
structure Machine.Alike (likeness : Likeness ω υ) (machine : Machine ω) (mirror : Machine υ) :
    Prop where
  identifier : mirror.identifier = machine.identifier
  kind : mirror.kind = machine.kind
  subscriptions : mirror.subscriptions = machine.subscriptions
  transition : ∀ {state mirrored world parallel} event,
    likeness.states machine.kind state mirrored → likeness.worlds world parallel →
      likeness.states machine.kind ((machine.transition event state world).1.or state)
          ((mirror.transition event mirrored parallel).1.or mirrored) ∧
        likeness.worlds (machine.transition event state world).2
          (mirror.transition event mirrored parallel).2
  entities : ∀ {state mirrored world parallel} event,
    likeness.states machine.kind state mirrored → likeness.worlds world parallel →
      (mirror.entities event mirrored parallel).1 = (machine.entities event state world).1 ∧
        likeness.worlds (machine.entities event state world).2
          (mirror.entities event mirrored parallel).2
  payloadValues : ∀ {state mirrored} event, likeness.states machine.kind state mirrored →
    mirror.payloadValues event mirrored = machine.payloadValues event state
  filter : ∀ {state mirrored world parallel} event,
    likeness.states machine.kind state mirrored → likeness.worlds world parallel →
      (mirror.filter event mirrored parallel).1 = (machine.filter event state world).1 ∧
        likeness.worlds (machine.filter event state world).2
          (mirror.filter event mirrored parallel).2
  afterTrack : ∀ {world parallel} event, likeness.worlds world parallel →
    likeness.worlds (machine.afterTrack event world) (mirror.afterTrack event parallel)

/-- Two versions with the same number show related states, or will. `kindOf` is the kind of
machine that each version belongs to. -/
inductive Version.Alike (likeness : Likeness ω υ) (kindOf : VersionId → MachineKind)
    (id : VersionId) : Version ω → Version υ → Prop where
  | settled {state mirrored : Option MachineState} :
      likeness.states (kindOf id) state mirrored →
        Alike likeness kindOf id (.settled state) (.settled mirrored)
  | due {machine : Machine ω} {mirror : Machine υ} {previous : Option VersionId}
      (event : ObservedEvent) : machine.Alike likeness mirror → kindOf id = machine.kind →
        (∀ before ∈ previous, before < id ∧ likeness.Includes (kindOf before) machine.kind) →
          Alike likeness kindOf id (.due event previous machine) (.due event previous mirror)

namespace Manager

/-- A snapshot shows of each machine a version of its kind. -/
def Fits (likeness : Likeness ω υ) (kindOf : VersionId → MachineKind)
    (machines : List (Machine ω)) (seen : Snapshot) : Prop :=
  ∀ machine ∈ machines, ∀ id ∈ seen.get? machine.identifier,
    likeness.Includes (kindOf id) machine.kind

/-- Two managers have machines that act alike, in the same order, and versions that are alike. -/
structure Alike (likeness : Likeness ω υ) (kindOf : VersionId → MachineKind)
    (manager : Manager ω) (mirror : Manager υ) : Prop where
  machines : List.Forall₂ (Machine.Alike likeness) manager.machines mirror.machines
  current : mirror.current = manager.current
  size : mirror.versions.size = manager.versions.size
  versions : ∀ {id : VersionId} {version : Version ω} {mirrored : Version υ},
    manager.versions[id]? = some version → mirror.versions[id]? = some mirrored →
      version.Alike likeness kindOf id mirrored
  tidy : manager.Tidy
  fits : Fits likeness kindOf manager.machines manager.current

/-- Two answers are the same, and leave managers that are alike in related worlds. -/
structure AnswerAlike {α : Type} (likeness : Likeness ω υ) (kindOf : VersionId → MachineKind)
    (answered : α × Manager ω × ω) (mirrored : α × Manager υ × υ) : Prop where
  answers : mirrored.1 = answered.1
  managers : answered.2.1.Alike likeness kindOf mirrored.2.1
  worlds : likeness.worlds answered.2.2 mirrored.2.2

variable {likeness : Likeness ω υ} {kindOf : VersionId → MachineKind} {manager : Manager ω}
  {mirror : Manager υ} {world : ω} {parallel : υ}

theorem alike_empty (likeness : Likeness ω υ) (kindOf : VersionId → MachineKind) :
    ({} : Manager ω).Alike likeness kindOf ({} : Manager υ) where
  machines := .nil
  current := rfl
  size := rfl
  versions := nofun
  tidy := .empty
  fits := fun _ member => absurd member List.not_mem_nil

/-! ### Settling -/

theorem Alike.withSettled (alike : manager.Alike likeness kindOf mirror) {id : VersionId}
    {state mirrored : Option MachineState} (states : likeness.states (kindOf id) state mirrored) :
    (manager.withSettled id state).Alike likeness kindOf (mirror.withSettled id mirrored) := by
  constructor
  case machines => exact alike.machines
  case current => exact alike.current
  case size =>
    rw [size_withSettled, size_withSettled]
    exact alike.size
  case versions =>
    intro other version parallelVersion isVersion isParallel
    rw [getElem?_withSettled] at isVersion isParallel
    rw [alike.size] at isParallel
    split at isVersion
    · next same =>
      rw [if_pos same] at isParallel
      obtain rfl := Option.some.inj isVersion
      obtain rfl := Option.some.inj isParallel
      exact .settled (same.1 ▸ states)
    · next differs =>
      rw [if_neg differs] at isParallel
      exact alike.versions isVersion isParallel
  case tidy => exact alike.tidy.withSettled id state
  case fits => exact alike.fits

/-- Settling runs the same transitions in both managers, in the same order. -/
theorem Alike.settleWithin (alike : manager.Alike likeness kindOf mirror)
    (worlds : likeness.worlds world parallel) (bound : Nat) (id : VersionId) :
    likeness.states (kindOf id) (Manager.settleWithin bound manager world id).1
        (Manager.settleWithin bound mirror parallel id).1 ∧
      (Manager.settleWithin bound manager world id).2.1.Alike likeness kindOf
        (Manager.settleWithin bound mirror parallel id).2.1 ∧
      likeness.worlds (Manager.settleWithin bound manager world id).2.2
        (Manager.settleWithin bound mirror parallel id).2.2 := by
  induction bound generalizing manager mirror world parallel id with
  | zero => exact ⟨likeness.none _, alike, worlds⟩
  | succ bound inductionHypothesis =>
      rw [Manager.settleWithin, Manager.settleWithin]
      cases isVersion : manager.versions[id]? with
      | none =>
          have isParallel : mirror.versions[id]? = none := by
            rw [Array.getElem?_eq_none_iff, alike.size]
            exact Array.getElem?_eq_none_iff.mp isVersion
          simp only [isParallel]
          exact ⟨likeness.none _, alike, worlds⟩
      | some version =>
          have inside : id < mirror.versions.size := by
            rw [alike.size]
            exact (Array.getElem?_eq_some_iff.mp isVersion).1
          obtain ⟨mirrored, isParallel⟩ : ∃ mirrored, mirror.versions[id]? = some mirrored :=
            ⟨_, Array.getElem?_eq_getElem inside⟩
          simp only [isParallel]
          cases alike.versions isVersion isParallel with
          | settled states => exact ⟨states, alike, worlds⟩
          | @due machine follower previous event machines isKind fits =>
              cases previous with
              | none =>
                  obtain ⟨states, moved⟩ :=
                    machines.transition event (likeness.none machine.kind) worlds
                  rw [← isKind] at states
                  exact ⟨states, alike.withSettled states, moved⟩
              | some before =>
                  obtain ⟨earlier, settled, between⟩ := inductionHypothesis alike worlds before
                  obtain ⟨states, moved⟩ :=
                    machines.transition event ((fits before rfl).2 _ _ earlier) between
                  rw [← isKind] at states
                  exact ⟨states, settled.withSettled states, moved⟩

theorem Alike.read (alike : manager.Alike likeness kindOf mirror)
    (worlds : likeness.worlds world parallel) {seen : Snapshot} {identifier : String}
    {kind : MachineKind} (fits : ∀ id ∈ seen.get? identifier, likeness.Includes (kindOf id) kind) :
    likeness.states kind (manager.read world seen identifier).1
        (mirror.read parallel seen identifier).1 ∧
      (manager.read world seen identifier).2.1.Alike likeness kindOf
        (mirror.read parallel seen identifier).2.1 ∧
      likeness.worlds (manager.read world seen identifier).2.2
        (mirror.read parallel seen identifier).2.2 := by
  rw [Manager.read, Manager.read]
  cases isNamed : seen.get? identifier with
  | none => exact ⟨likeness.none kind, alike, worlds⟩
  | some id =>
      obtain ⟨states, managers, after⟩ := alike.settleWithin worlds (id + 1) id
      exact ⟨fits id isNamed _ _ states, managers, after⟩

/-! ### Asking machines -/

section Asking

variable {machines : List (Machine ω)} {mirrors : List (Machine υ)} (event : ObservedEvent)
  {seen : Snapshot} (areAlike : List.Forall₂ (Machine.Alike likeness) machines mirrors)
  (fits : Fits likeness kindOf machines seen)

include areAlike fits

theorem Alike.entitiesOf (alike : manager.Alike likeness kindOf mirror)
    (worlds : likeness.worlds world parallel) :
    AnswerAlike likeness kindOf (entitiesOf event seen machines manager world)
      (entitiesOf event seen mirrors mirror parallel) := by
  induction areAlike generalizing manager mirror world parallel with
  | nil => exact ⟨rfl, alike, worlds⟩
  | @cons machine follower rest others machineAlike _ inductionHypothesis =>
      obtain ⟨fitsFirst, fitsRest⟩ := List.forall_mem_cons.mp fits
      obtain ⟨states, managers, read⟩ := alike.read worlds fitsFirst
      obtain ⟨given, asked⟩ := machineAlike.entities event states read
      obtain ⟨answers, after, last⟩ := inductionHypothesis fitsRest managers asked
      rw [Manager.entitiesOf, Manager.entitiesOf, machineAlike.identifier]
      exact ⟨by simp only [given, answers], after, last⟩

theorem Alike.addValuesOf (alike : manager.Alike likeness kindOf mirror)
    (worlds : likeness.worlds world parallel) (fields : Fields) :
    AnswerAlike likeness kindOf (addValuesOf event seen machines manager world fields)
      (addValuesOf event seen mirrors mirror parallel fields) := by
  induction areAlike generalizing manager mirror world parallel fields with
  | nil => exact ⟨rfl, alike, worlds⟩
  | @cons machine follower rest others machineAlike _ inductionHypothesis =>
      obtain ⟨fitsFirst, fitsRest⟩ := List.forall_mem_cons.mp fits
      obtain ⟨states, managers, read⟩ := alike.read worlds fitsFirst
      have values := machineAlike.payloadValues event states
      obtain ⟨answers, after, last⟩ := inductionHypothesis fitsRest managers read _
      rw [Manager.addValuesOf, Manager.addValuesOf, machineAlike.identifier]
      simp only [values]
      exact ⟨by simp only [answers], after, last⟩

/-- The votes are the same, so asking stops at the same machine. -/
theorem Alike.votesOf (alike : manager.Alike likeness kindOf mirror)
    (worlds : likeness.worlds world parallel) :
    AnswerAlike likeness kindOf (votesOf event seen machines manager world)
      (votesOf event seen mirrors mirror parallel) := by
  induction areAlike generalizing manager mirror world parallel with
  | nil => exact ⟨rfl, alike, worlds⟩
  | @cons machine follower rest others machineAlike _ inductionHypothesis =>
      obtain ⟨fitsFirst, fitsRest⟩ := List.forall_mem_cons.mp fits
      obtain ⟨states, managers, read⟩ := alike.read worlds fitsFirst
      obtain ⟨vote, asked⟩ := machineAlike.filter event states read
      rw [Manager.votesOf, Manager.votesOf, machineAlike.identifier]
      simp only [vote]
      split
      · exact ⟨rfl, managers, asked⟩
      · exact inductionHypothesis fitsRest managers asked

end Asking

/-- The same machines are concerned. -/
theorem Alike.concerned (alike : manager.Alike likeness kindOf mirror)
    (selection : Subscriptions → Selector) (event : ObservedEvent) :
    List.Forall₂ (Machine.Alike likeness) (manager.concerned selection event)
      (mirror.concerned selection event) := by
  refine List.rel_filter ?_ alike.machines
  intro machine follower machineAlike
  simp only [machineAlike.subscriptions]

theorem Fits.concerned {seen : Snapshot} (fits : Fits likeness kindOf manager.machines seen)
    (selection : Subscriptions → Selector) (event : ObservedEvent) :
    Fits likeness kindOf (manager.concerned selection event) seen :=
  fun machine member => fits machine (List.mem_filter.mp member).1

section Questions

variable (alike : manager.Alike likeness kindOf mirror) (worlds : likeness.worlds world parallel)
  (event : ObservedEvent) {seen : Snapshot} (fits : Fits likeness kindOf manager.machines seen)

include alike worlds fits

theorem Alike.entities : AnswerAlike likeness kindOf (manager.entities world event seen)
    (mirror.entities parallel event seen) :=
  alike.entitiesOf event (alike.concerned _ event) (fits.concerned _ event) worlds

theorem Alike.addPayloadValues (fields : Fields) :
    AnswerAlike likeness kindOf (manager.addPayloadValues world event seen fields)
      (mirror.addPayloadValues parallel event seen fields) :=
  alike.addValuesOf event (alike.concerned _ event) (fits.concerned _ event) worlds fields

theorem Alike.accepts : AnswerAlike likeness kindOf (manager.accepts world event seen)
    (mirror.accepts parallel event seen) :=
  alike.votesOf event (alike.concerned _ event) (fits.concerned _ event) worlds

end Questions

theorem Alike.afterTrack (alike : manager.Alike likeness kindOf mirror)
    (worlds : likeness.worlds world parallel) (event : ObservedEvent) :
    likeness.worlds (manager.afterTrack world event) (mirror.afterTrack parallel event) := by
  rw [Manager.afterTrack, Manager.afterTrack]
  refine List.rel_foldl (P := likeness.worlds) ?_ worlds
    (alike.concerned Subscriptions.afterTrack event)
  intro before parallelBefore related machine follower machineAlike
  exact machineAlike.afterTrack event related

/-! ### Noting an event -/

theorem Alike.withDue (alike : manager.Alike likeness kindOf mirror) (event : ObservedEvent)
    {machine : Machine ω} {follower : Machine υ} (machineAlike : machine.Alike likeness follower)
    (member : machine ∈ manager.machines) :
    (manager.withDue event machine).Alike likeness
      (Function.update kindOf manager.versions.size machine.kind)
      (mirror.withDue event follower) := by
  have atOld : ∀ {id : VersionId}, id < manager.versions.size →
      Function.update kindOf manager.versions.size machine.kind id = kindOf id :=
    fun inside => Function.update_of_ne (Nat.ne_of_lt inside) _ _
  have atNew : Function.update kindOf manager.versions.size machine.kind
      manager.versions.size = machine.kind := Function.update_self _ _ _
  constructor
  case machines => exact alike.machines
  case current =>
    simp only [Manager.withDue, alike.current, alike.size, machineAlike.identifier]
  case size =>
    rw [size_withDue, size_withDue, alike.size]
  case versions =>
    intro id version mirrored isVersion isMirrored
    rw [getElem?_withDue] at isVersion isMirrored
    rw [alike.size] at isMirrored
    split at isVersion
    · next isNew =>
      rw [if_pos isNew] at isMirrored
      obtain rfl := Option.some.inj isVersion
      obtain rfl := Option.some.inj isMirrored
      rw [alike.current, machineAlike.identifier]
      refine .due event machineAlike (isNew ▸ atNew) fun before isBefore => ?_
      have inside := alike.tidy.within machine.identifier before isBefore
      rw [atOld inside, isNew]
      exact ⟨inside, alike.fits machine member before isBefore⟩
    · next isOld =>
      rw [if_neg isOld] at isMirrored
      have inside := (Array.getElem?_eq_some_iff.mp isVersion).1
      cases alike.versions isVersion isMirrored with
      | settled states => exact .settled ((atOld inside).symm ▸ states)
      | due noted machines isKind fits =>
          refine .due noted machines ((atOld inside).trans isKind) fun before isBefore => ?_
          obtain ⟨earlier, includes⟩ := fits before isBefore
          rw [atOld (Nat.lt_trans earlier inside)]
          exact ⟨earlier, includes⟩
  case tidy => exact alike.tidy.withDue event member
  case fits =>
    intro other isMember id named
    rw [get?_current_withDue] at named
    split at named
    · next same =>
      cases named
      obtain rfl := List.inj_on_of_nodup_map alike.tidy.distinct member isMember same
      rw [atNew]
      exact fun _ _ related => related
    · rw [atOld (alike.tidy.within _ _ named)]
      exact alike.fits other isMember id named

/-- The managers after an event are alike. -/
structure AlikeAfter (likeness : Likeness ω υ) (manager : Manager ω) (world : ω)
    (mirror : Manager υ) (parallel : υ) : Prop where
  managers : ∃ kindOf, manager.Alike likeness kindOf mirror
  worlds : likeness.worlds world parallel

theorem Alike.advance (alike : manager.Alike likeness kindOf mirror)
    (worlds : likeness.worlds world parallel) (event : ObservedEvent) {machine : Machine ω}
    {follower : Machine υ} (machineAlike : machine.Alike likeness follower)
    (member : machine ∈ manager.machines) :
    AlikeAfter likeness (manager.advance world event machine).1
      (manager.advance world event machine).2 (mirror.advance parallel event follower).1
      (mirror.advance parallel event follower).2 := by
  obtain ⟨-, managers, read⟩ := alike.read worlds (alike.fits machine member)
  have same := (manager.questions_read world manager.current machine.identifier).frame.1
  rw [advance_eq, advance_eq]
  simp only [Manager.state, alike.current, machineAlike.identifier]
  exact ⟨⟨_, managers.withDue event machineAlike (same ▸ member)⟩, read⟩

theorem Alike.advanceAll (alike : manager.Alike likeness kindOf mirror)
    (worlds : likeness.worlds world parallel) (event : ObservedEvent)
    {machines : List (Machine ω)} {mirrors : List (Machine υ)}
    (areAlike : List.Forall₂ (Machine.Alike likeness) machines mirrors)
    (registered : machines ⊆ manager.machines) :
    AlikeAfter likeness (advanceAll event machines manager world).1
      (advanceAll event machines manager world).2 (advanceAll event mirrors mirror parallel).1
      (advanceAll event mirrors mirror parallel).2 := by
  induction areAlike generalizing manager mirror world parallel kindOf with
  | nil => exact ⟨⟨kindOf, alike⟩, worlds⟩
  | @cons machine follower rest others machineAlike _ inductionHypothesis =>
      obtain ⟨member, restRegistered⟩ := List.cons_subset.mp registered
      rw [Manager.advanceAll, Manager.advanceAll, machineAlike.subscriptions]
      split
      · obtain ⟨⟨kindAfter, managers⟩, after⟩ := alike.advance worlds event machineAlike member
        have same : (manager.advance world event machine).1.machines = manager.machines := by
          rw [advance_eq]
          exact (manager.questions_read world manager.current machine.identifier).frame.1
        exact inductionHypothesis managers after (same ▸ restRegistered)
      · exact inductionHypothesis alike worlds restRegistered

/-- An event gets the same snapshot. -/
theorem Alike.snapshot (alike : manager.Alike likeness kindOf mirror)
    (worlds : likeness.worlds world parallel) (event : ObservedEvent) :
    (mirror.snapshot parallel event).1 = (manager.snapshot world event).1 ∧
      AlikeAfter likeness (manager.snapshot world event).2.1 (manager.snapshot world event).2.2
        (mirror.snapshot parallel event).2.1 (mirror.snapshot parallel event).2.2 := by
  have noted := alike.advanceAll worlds event alike.machines (List.Subset.refl _)
  obtain ⟨_, managers⟩ := noted.managers
  exact ⟨managers.current, noted⟩

/-! ### Registration -/

/-- The machines under an identifier act alike. -/
theorem Alike.find? (alike : manager.Alike likeness kindOf mirror) (identifier : String) :
    Option.Rel (Machine.Alike likeness) (manager.find? identifier) (mirror.find? identifier) := by
  obtain ⟨machines, _⟩ := alike
  unfold Manager.find?
  generalize manager.machines = registered, mirror.machines = mirrored at machines
  induction machines with
  | nil => exact .none
  | @cons machine follower _ _ machineAlike _ inductionHypothesis =>
      rw [List.find?_cons, List.find?_cons, machineAlike.identifier]
      split
      · exact .some machineAlike
      · exact inductionHypothesis

theorem Alike.machines_add (alike : manager.Alike likeness kindOf mirror) {machine : Machine ω}
    {follower : Machine υ} (machineAlike : machine.Alike likeness follower) :
    List.Forall₂ (Machine.Alike likeness) (manager.add machine).machines
        (mirror.add follower).machines ∧
      (mirror.add follower).current = (manager.add machine).current := by
  have found := alike.find? machine.identifier
  unfold Manager.add
  rw [machineAlike.identifier]
  generalize manager.find? machine.identifier = held, mirror.find? machine.identifier = mirrored
    at found
  cases found with
  | none =>
      exact ⟨List.rel_append alike.machines (.cons machineAlike .nil), alike.current⟩
  | some heldAlike =>
      refine ⟨List.rel_map (fun old parallelOld oldAlike => ?_) alike.machines, ?_⟩
      · rw [oldAlike.identifier, machineAlike.identifier]
        split
        · exact machineAlike
        · exact oldAlike
      · simp only [heldAlike.kind, machineAlike.kind, alike.current]

/-- A machine takes over a state of its kind, so what snapshots show of it still fits. -/
theorem Alike.fits_add (alike : manager.Alike likeness kindOf mirror) (machine : Machine ω) :
    Fits likeness kindOf (manager.add machine).machines (manager.add machine).current := by
  intro member isMember id named
  rw [get?_current_add] at named
  split at named
  · cases named
  · next keepsState =>
    rcases alike.tidy.mem_add_cases isMember with rfl | ⟨wasMember, _⟩
    · obtain ⟨held, isHeld⟩ : ∃ held, manager.find? member.identifier = some held :=
        Option.ne_none_iff_exists'.mp fun isNone =>
          (find?_eq_none_iff _ _).mp isNone (alike.tidy.owned named)
      have sameKind : held.kind = member.kind := by
        by_contra differs
        exact keepsState ⟨rfl, held, isHeld, differs⟩
      rw [← sameKind]
      refine alike.fits held (List.mem_of_find?_eq_some isHeld) id ?_
      rw [find?_identifier isHeld]
      exact named
    · exact alike.fits member wasMember id named

theorem Alike.add (alike : manager.Alike likeness kindOf mirror) {machine : Machine ω}
    {follower : Machine υ} (machineAlike : machine.Alike likeness follower) :
    (manager.add machine).Alike likeness kindOf (mirror.add follower) := by
  obtain ⟨machines, current⟩ := alike.machines_add machineAlike
  constructor
  case machines => exact machines
  case current => exact current
  case size => rw [add_versions, add_versions]; exact alike.size
  case versions => rw [add_versions, add_versions]; exact alike.versions
  case tidy => exact alike.tidy.add machine
  case fits => exact alike.fits_add machine

theorem Alike.remove (alike : manager.Alike likeness kindOf mirror) (removed : String) :
    (manager.remove removed).Alike likeness kindOf (mirror.remove removed) := by
  constructor
  case machines =>
    refine List.rel_filter (fun machine follower machineAlike => ?_) alike.machines
    simp only [machineAlike.identifier]
  case current => simp only [Manager.remove, alike.current]
  case size => exact alike.size
  case versions => exact alike.versions
  case tidy => exact alike.tidy.remove removed
  case fits =>
    intro machine member id named
    rw [Manager.remove, Entries.get?_erase] at named
    split at named
    · cases named
    · exact alike.fits machine (List.mem_filter.mp member).1 id named

end Manager

end Telemetry

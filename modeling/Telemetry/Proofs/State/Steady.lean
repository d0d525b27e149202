import Mathlib.Data.List.Nodup
import Mathlib.Logic.Function.Basic
import Telemetry.Proofs.State.Uses

/-!
Contract: the states of one machine that ignores the world, among machines that need not.

Owns:
- the states that the versions of its slot have or will be computed to;
- that uses which leave the machine registered leave them, and add those that events lead to;
- what any snapshot shows of the machine, whatever happens after it was taken.

Does not own: what the machine makes of its states.

The other machines may read and change the world as they like, so their versions have no value
before they are settled. Those of this machine do.
-/

namespace Telemetry

variable {ω : Type}

/-- The use leaves a machine registered: no other takes its place, and it is not removed. -/
def ManagerUse.Spares (machine : Machine ω) : ManagerUse ω → Prop
  | .move (.add added) => added.identifier = machine.identifier → added = machine
  | .move (.remove removed) => removed ≠ machine.identifier
  | _ => True

/-- The state of a machine after the event of a use, if it is one. -/
def Machine.afterUse (machine : Machine ω) (world : ω) (before : Option MachineState)
    (use : ManagerUse ω) : Option MachineState :=
  match use.observed? with
  | some event => machine.follow world event before
  | none => before

theorem Machine.foldl_afterUse (machine : Machine ω) (world : ω) (uses : List (ManagerUse ω))
    (before : Option MachineState) :
    uses.foldl (machine.afterUse world) before =
      (uses.filterMap ManagerUse.observed?).foldl
        (fun state event => machine.follow world event state) before := by
  rw [List.foldl_filterMap]
  refine congrArg (fun step => uses.foldl step before) ?_
  funext state use
  rw [Machine.afterUse]
  cases use.observed? <;> rfl

/-- For some versions, the state that they have or will be computed to. -/
abbrev KnownStates := VersionId → Option (Option MachineState)

namespace KnownStates

/-- The state of a version. -/
def stateOf (states : KnownStates) (id : Option VersionId) : Option MachineState :=
  (id.bind states).join

/-- More versions are known, and none has another state. -/
def Grows (states more : KnownStates) : Prop :=
  ∀ id state, states id = some state → more id = some state

theorem grows_self (states : KnownStates) : states.Grows states := fun _ _ known => known

theorem Grows.trans {first second third : KnownStates} (left : first.Grows second)
    (right : second.Grows third) : first.Grows third :=
  fun id state known => right id state (left id state known)

theorem Grows.stateOf {states more : KnownStates} (grows : states.Grows more)
    {id : Option VersionId} (known : ∀ number ∈ id, ∃ state, states number = some state) :
    more.stateOf id = states.stateOf id := by
  cases id with
  | none => rfl
  | some number =>
      obtain ⟨state, isKnown⟩ := known number rfl
      rw [KnownStates.stateOf, KnownStates.stateOf, Option.bind_some, Option.bind_some, isKnown,
        grows number state isKnown]

end KnownStates

namespace Manager

/-- A machine that is registered has a state, and the known states are those of its versions. Its
versions that are due are computed from such a state. `other` is any world. -/
structure Keeps (manager : Manager ω) (machine : Machine ω) (other : ω) (states : KnownStates)
    (current : Option MachineState) : Prop where
  linked : manager.Linked
  distinct : manager.identifiers.Nodup
  registered : manager.find? machine.identifier = some machine
  present : ∀ {id : VersionId} {state : Option MachineState}, states id = some state →
    id < manager.versions.size
  settled : ∀ {id : VersionId} {state held : Option MachineState}, states id = some state →
    manager.versions[id]? = some (.settled held) → held = state
  due : ∀ {id : VersionId} {state : Option MachineState} {event : ObservedEvent}
    {previous : Option VersionId} {follower : Machine ω}, states id = some state →
      manager.versions[id]? = some (.due event previous follower) →
        (∀ before ∈ previous, ∃ known, states before = some known) ∧
          ∀ world, state = follower.next world event (states.stateOf previous)
  named : ∀ id ∈ manager.current.get? machine.identifier, ∃ known, states id = some known
  shows : states.stateOf (manager.current.get? machine.identifier) = current

variable {manager : Manager ω} {machine : Machine ω} {other : ω} {states : KnownStates}
  {current : Option MachineState}

namespace Keeps

/-! ### Questions -/

/-- What is known of a settled version is its state. -/
theorem settledState_eq (keeps : manager.Keeps machine other states current)
    {previous : Option VersionId}
    (known : ∀ before ∈ previous, ∃ state, states before = some state)
    (held : ∀ before ∈ previous, manager.isSettled before = true) :
    manager.settledState previous = states.stateOf previous := by
  cases previous with
  | none => rfl
  | some before =>
      obtain ⟨state, isKnown⟩ := known before rfl
      obtain ⟨settled, isSettled⟩ := isSettled_iff.mp (held before rfl)
      rw [settledState, KnownStates.stateOf, Option.bind_some, Option.bind_some, isSettled, isKnown]
      exact keeps.settled isKnown isSettled

theorem withSettled (keeps : manager.Keeps machine other states current) {id : VersionId}
    {held : Option MachineState} (fits : ∀ state, states id = some state → held = state) :
    (manager.withSettled id held).Keeps machine other states current := by
  constructor
  case linked => exact keeps.linked.withSettled id held
  case distinct => exact keeps.distinct
  case registered => exact keeps.registered
  case present =>
    intro other state known
    rw [size_withSettled]
    exact keeps.present known
  case settled =>
    intro other state found known isSettled
    rw [getElem?_withSettled] at isSettled
    split at isSettled
    · next same =>
      obtain rfl := Version.settled.inj (Option.some.inj isSettled)
      exact fits state (same.1 ▸ known)
    · exact keeps.settled known isSettled
  case due =>
    intro other state event previous follower known isDue
    exact keeps.due known (due_of_withSettled isDue).2
  case named => exact keeps.named
  case shows => exact keeps.shows

theorem settle (keeps : manager.Keeps machine other states current) (world : ω) (id : VersionId) :
    (manager.settle world id).2.1.Keeps machine other states current := by
  rcases settle_cases keeps.linked world id with
    ⟨_, same⟩ | ⟨event, previous, follower, isDue, settled⟩
  · rw [same]
    exact keeps
  · rw [settled]
    refine keeps.withSettled fun state known => ?_
    obtain ⟨areKnown, isNext⟩ := keeps.due known isDue
    have held : ∀ before ∈ previous, manager.isSettled before = true :=
      fun before isBefore => (keeps.linked.chained isDue before isBefore).2
    rw [keeps.settledState_eq areKnown held]
    exact (isNext world).symm

theorem questions (keeps : manager.Keeps machine other states current) {after : Manager ω}
    {world later : ω} (asked : Questions manager world after later) :
    after.Keeps machine other states current := by
  induction asked with
  | nothing => exact keeps
  | settle id _ inductionHypothesis => exact inductionHypothesis.settle _ id
  | entities event state _ _ inductionHypothesis => exact inductionHypothesis
  | filter event state _ _ inductionHypothesis => exact inductionHypothesis

theorem settle_fst (keeps : manager.Keeps machine other states current) (world : ω)
    {id : VersionId} {state : Option MachineState} (known : states id = some state) :
    (manager.settle world id).1 = state := by
  cases found : manager.versions[id]? with
  | none =>
      exact absurd (keeps.present known) (Nat.not_lt.mpr (Array.getElem?_eq_none_iff.mp found))
  | some version =>
      cases version with
      | settled held =>
          rw [settle_of_settled found]
          exact keeps.settled known found
      | due event previous follower =>
          obtain ⟨areKnown, isNext⟩ := keeps.due known found
          have held : ∀ before ∈ previous, manager.isSettled before = true :=
            fun before isBefore => (keeps.linked.chained found before isBefore).2
          rw [settle_of_due keeps.linked found, keeps.settledState_eq areKnown held]
          exact (isNext world).symm

/-- Reading a known version answers its state. -/
theorem read_fst (keeps : manager.Keeps machine other states current) (world : ω)
    {seen : Snapshot} {identifier : String}
    (named : ∀ id ∈ seen.get? identifier, ∃ state, states id = some state) :
    (manager.read world seen identifier).1 = states.stateOf (seen.get? identifier) := by
  unfold read
  cases isSeen : seen.get? identifier with
  | none => rfl
  | some id =>
      obtain ⟨state, known⟩ := named id isSeen
      rw [KnownStates.stateOf, Option.bind_some, known]
      exact keeps.settle_fst world known

/-! ### Noting an event -/

/-- A version of another machine has no known state. -/
theorem withDue_other (keeps : manager.Keeps machine other states current)
    (event : ObservedEvent) {follower : Machine ω}
    (differs : follower.identifier ≠ machine.identifier)
    (held : ∀ before ∈ manager.current.get? follower.identifier,
      manager.isSettled before = true) :
    (manager.withDue event follower).Keeps machine other states current := by
  have isOld : ∀ {id : VersionId} {state : Option MachineState}, states id = some state →
      (manager.withDue event follower).versions[id]? = manager.versions[id]? := by
    intro id state known
    exact getElem?_withDue_of_lt event follower (keeps.present known)
  have sameCurrent : (manager.withDue event follower).current.get? machine.identifier =
      manager.current.get? machine.identifier := by
    rw [get?_current_withDue, if_neg differs]
  constructor
  case linked => exact keeps.linked.withDue event held
  case distinct => exact keeps.distinct
  case registered => exact keeps.registered
  case present =>
    intro id state known
    rw [size_withDue]
    exact Nat.lt_succ_of_lt (keeps.present known)
  case settled =>
    intro id state found known isSettled
    rw [isOld known] at isSettled
    exact keeps.settled known isSettled
  case due =>
    intro id state noted previous follower known isDue
    rw [isOld known] at isDue
    exact keeps.due known isDue
  case named => rw [sameCurrent]; exact keeps.named
  case shows => rw [sameCurrent]; exact keeps.shows

/-- A version of the machine itself will be computed from the state before. -/
theorem withDue_self (keeps : manager.Keeps machine other states current)
    (ignores : machine.IgnoresWorld) (event : ObservedEvent)
    (held : ∀ before ∈ manager.current.get? machine.identifier,
      manager.isSettled before = true) :
    let more : KnownStates := Function.update states manager.versions.size
      (some (machine.next other event current))
    states.Grows more ∧
      (manager.withDue event machine).Keeps machine other more
        (machine.next other event current) := by
  intro more
  have atNew : more manager.versions.size = some (machine.next other event current) :=
    Function.update_self _ _ _
  have isOld : ∀ {id : VersionId}, id ≠ manager.versions.size → more id = states id :=
    fun differs => Function.update_of_ne differs _ _
  have isPresent : ∀ {id : VersionId} {state : Option MachineState}, states id = some state →
      id ≠ manager.versions.size := fun known => Nat.ne_of_lt (keeps.present known)
  have grows : states.Grows more := fun id state known => (isOld (isPresent known)).trans known
  refine ⟨grows, ?_⟩
  have newest : (manager.withDue event machine).current.get? machine.identifier =
      some manager.versions.size := by
    rw [get?_current_withDue, if_pos rfl]
  constructor
  case linked => exact keeps.linked.withDue event held
  case distinct => exact keeps.distinct
  case registered => exact keeps.registered
  case present =>
    intro id state known
    rw [size_withDue]
    by_cases isNew : id = manager.versions.size
    · rw [isNew]
      exact Nat.lt_succ_self _
    · rw [isOld isNew] at known
      exact Nat.lt_succ_of_lt (keeps.present known)
  case settled =>
    intro id state found known isSettled
    rw [getElem?_withDue] at isSettled
    split at isSettled
    · cases isSettled
    · next isNotNew =>
      rw [isOld isNotNew] at known
      exact keeps.settled known isSettled
  case due =>
    intro id state noted previous follower known isDue
    rcases due_of_withDue isDue with ⟨isNew, rfl, rfl, rfl⟩ | ⟨inside, wasDue⟩
    · rw [isNew, atNew] at known
      obtain rfl := Option.some.inj known
      refine ⟨fun before isBefore => ?_, fun world => ?_⟩
      · obtain ⟨state, isKnown⟩ := keeps.named before isBefore
        exact ⟨state, grows before state isKnown⟩
      · rw [grows.stateOf keeps.named, keeps.shows]
        exact ignores.next_eq other world _ _
    · rw [isOld (Nat.ne_of_lt inside)] at known
      obtain ⟨areKnown, isNext⟩ := keeps.due known wasDue
      refine ⟨fun before isBefore => ?_, fun world => ?_⟩
      · obtain ⟨state, isKnown⟩ := areKnown before isBefore
        exact ⟨state, grows before state isKnown⟩
      · rw [grows.stateOf areKnown]
        exact isNext world
  case named =>
    rw [newest]
    rintro id ⟨⟩
    exact ⟨_, atNew⟩
  case shows =>
    rw [newest, KnownStates.stateOf, Option.bind_some, atNew]
    rfl

/-- Before a version is noted, the one before it was settled. -/
theorem state (keeps : manager.Keeps machine other states current) (world : ω)
    (identifier : String) :
    (manager.state world identifier).2.1.Keeps machine other states current ∧
      ∀ before ∈ (manager.state world identifier).2.1.current.get? identifier,
        (manager.state world identifier).2.1.isSettled before = true := by
  have asked := manager.questions_read world manager.current identifier
  refine ⟨keeps.questions asked, ?_⟩
  rw [Manager.state, asked.frame.2.1]
  exact isSettled_state keeps.linked world identifier

theorem advanceAll_others (keeps : manager.Keeps machine other states current) (world : ω)
    (event : ObservedEvent) {machines : List (Machine ω)}
    (others : machine.identifier ∉ machines.map Machine.identifier) :
    (advanceAll event machines manager world).1.Keeps machine other states current := by
  induction machines generalizing manager world with
  | nil => exact keeps
  | cons follower rest inductionHypothesis =>
      obtain ⟨differs, restOthers⟩ := List.ne_and_not_mem_of_not_mem_cons others
      rw [advanceAll]
      split
      · obtain ⟨read, held⟩ := keeps.state world follower.identifier
        rw [advance_eq]
        exact inductionHypothesis (read.withDue_other event (Ne.symm differs) held) _ restOthers
      · exact inductionHypothesis keeps world restOthers

/-- Of machines with different identifiers one at most is the machine, so its state moves once. -/
theorem advanceAll (keeps : manager.Keeps machine other states current)
    (ignores : machine.IgnoresWorld) (world : ω) (event : ObservedEvent)
    {machines : List (Machine ω)} (distinct : (machines.map Machine.identifier).Nodup)
    (member : machine ∈ machines) :
    ∃ more, states.Grows more ∧ (advanceAll event machines manager world).1.Keeps machine other more
      (machine.follow other event current) := by
  induction machines generalizing manager world with
  | nil => cases member
  | cons follower rest inductionHypothesis =>
      obtain ⟨isNew, restDistinct⟩ := List.nodup_cons.mp distinct
      rw [Manager.advanceAll]
      rcases List.mem_cons.mp member with rfl | isLater
      · rw [Machine.follow]
        split
        · obtain ⟨read, held⟩ := keeps.state world machine.identifier
          obtain ⟨grows, noted⟩ := read.withDue_self ignores event held
          rw [advance_eq]
          exact ⟨_, grows, noted.advanceAll_others _ event isNew⟩
        · exact ⟨states, states.grows_self, keeps.advanceAll_others world event isNew⟩
      · have differs : follower.identifier ≠ machine.identifier :=
          fun same => isNew (same ▸ List.mem_map_of_mem isLater)
        split
        · obtain ⟨read, held⟩ := keeps.state world follower.identifier
          rw [advance_eq]
          exact inductionHypothesis (read.withDue_other event differs held) _ restDistinct isLater
        · exact inductionHypothesis keeps world restDistinct isLater

theorem snapshot (keeps : manager.Keeps machine other states current)
    (ignores : machine.IgnoresWorld) (world : ω) (event : ObservedEvent) :
    ∃ more, states.Grows more ∧ (manager.snapshot world event).2.1.Keeps machine other more
      (machine.follow other event current) :=
  keeps.advanceAll ignores world event keeps.distinct (List.mem_of_find?_eq_some keeps.registered)

/-! ### Registration -/

theorem add (keeps : manager.Keeps machine other states current) {added : Machine ω}
    (spares : added.identifier = machine.identifier → added = machine) :
    (manager.add added).Keeps machine other states current := by
  have identifiers : (manager.add added).identifiers =
      Telemetry.registered manager.identifiers (.add added) :=
    manager.identifiers_add added
  have sameCurrent : (manager.add added).current.get? machine.identifier =
      manager.current.get? machine.identifier := by
    rw [get?_current_add, if_neg]
    rintro ⟨same, held, isHeld, otherKind⟩
    rw [keeps.registered] at isHeld
    obtain rfl := Option.some.inj isHeld
    exact otherKind (congrArg Machine.kind (spares same)).symm
  constructor
  case linked => exact keeps.linked.add added
  case distinct => rw [identifiers]; exact registered_nodup keeps.distinct _
  case registered =>
    rw [find?_add]
    split
    · next same => rw [spares same]
    · exact keeps.registered
  case present => rw [add_versions]; exact keeps.present
  case settled => rw [add_versions]; exact keeps.settled
  case due => rw [add_versions]; exact keeps.due
  case named => rw [sameCurrent]; exact keeps.named
  case shows => rw [sameCurrent]; exact keeps.shows

theorem remove (keeps : manager.Keeps machine other states current) {removed : String}
    (spares : removed ≠ machine.identifier) :
    (manager.remove removed).Keeps machine other states current := by
  have identifiers : (manager.remove removed).identifiers =
      Telemetry.registered manager.identifiers (.remove removed : ManagerMove ω) :=
    manager.identifiers_remove removed
  have sameCurrent : (manager.remove removed).current.get? machine.identifier =
      manager.current.get? machine.identifier := by
    rw [Manager.remove, Entries.get?_erase, if_neg spares]
  constructor
  case linked => exact keeps.linked.remove removed
  case distinct => rw [identifiers]; exact registered_nodup keeps.distinct _
  case registered => rw [find?_remove, if_neg spares]; exact keeps.registered
  case present => exact keeps.present
  case settled => exact keeps.settled
  case due => exact keeps.due
  case named => rw [sameCurrent]; exact keeps.named
  case shows => rw [sameCurrent]; exact keeps.shows

/-! ### Every series of uses -/

theorem use (keeps : manager.Keeps machine other states current) (ignores : machine.IgnoresWorld)
    (world : ω) {use : ManagerUse ω} (spares : use.Spares machine) :
    ∃ more, states.Grows more ∧ (manager.use world use).1.Keeps machine other more
      (machine.afterUse other current use) := by
  have done := manager.useCase world use
  generalize (manager.use world use).1 = after, (manager.use world use).2 = later at done ⊢
  cases done with
  | add added => exact ⟨states, states.grows_self, keeps.add spares⟩
  | remove removed => exact ⟨states, states.grows_self, keeps.remove spares⟩
  | observe event => exact keeps.snapshot ignores world event
  | question isNone asked =>
      rw [Machine.afterUse, isNone]
      exact ⟨states, states.grows_self, keeps.questions asked⟩
  | elsewhere _ isNone =>
      rw [Machine.afterUse, isNone]
      exact ⟨states, states.grows_self, keeps⟩

theorem useAll (keeps : manager.Keeps machine other states current)
    (ignores : machine.IgnoresWorld) (world : ω) {uses : List (ManagerUse ω)}
    (spares : ∀ use ∈ uses, use.Spares machine) :
    ∃ more, states.Grows more ∧ (manager.useAll world uses).1.Keeps machine other more
      (uses.foldl (machine.afterUse other) current) := by
  induction uses generalizing manager world states current with
  | nil => exact ⟨states, states.grows_self, keeps⟩
  | cons use rest inductionHypothesis =>
      obtain ⟨isSpared, areSpared⟩ := List.forall_mem_cons.mp spares
      obtain ⟨first, grows, kept⟩ := keeps.use ignores world isSpared
      obtain ⟨more, growsOn, keptOn⟩ :=
        inductionHypothesis kept (manager.use world use).2 areSpared
      exact ⟨more, grows.trans growsOn, keptOn⟩

end Keeps

/-! ### Before any event -/

/-- Machines were registered, and no event was noted. -/
structure Unstarted (manager : Manager ω) : Prop where
  linked : manager.Linked
  distinct : manager.identifiers.Nodup
  noVersions : manager.versions = #[]

theorem Unstarted.add (unstarted : manager.Unstarted) (added : Machine ω) :
    (manager.add added).Unstarted where
  linked := unstarted.linked.add added
  distinct := (manager.identifiers_add added) ▸ registered_nodup unstarted.distinct (.add added)
  noVersions := (manager.add_versions added).trans unstarted.noVersions

theorem unstarted_foldl_add (machines : List (Machine ω)) :
    (machines.foldl Manager.add {}).Unstarted :=
  List.foldlRecOn machines Manager.add ⟨linked_empty, List.nodup_nil, rfl⟩
    fun _ unstarted added _ => unstarted.add added

theorem Unstarted.get?_current (unstarted : manager.Unstarted) (identifier : String) :
    manager.current.get? identifier = none := by
  refine Option.eq_none_iff_forall_ne_some.mpr fun id named => ?_
  have inside := unstarted.linked.within identifier id named
  rw [unstarted.noVersions] at inside
  exact Nat.not_lt_zero id inside

/-- A machine that joins others before any event has no state. -/
theorem keeps_first (others : List (Machine ω)) (machine : Machine ω) (other : ω) :
    ((others.foldl Manager.add {}).add machine).Keeps machine other (fun _ => none) none := by
  have start := (unstarted_foldl_add others).add machine
  have unnamed := start.get?_current machine.identifier
  constructor
  case linked => exact start.linked
  case distinct => exact start.distinct
  case registered => rw [find?_add, if_pos rfl]
  case present => exact nofun
  case settled => exact nofun
  case due => exact nofun
  case named => rw [unnamed]; exact nofun
  case shows => rw [unnamed]; rfl

/-! ### The machine's entities -/

section Entities

variable (world : ω) (event : ObservedEvent) {seen : Snapshot}
  (named : ∀ id ∈ seen.get? machine.identifier, ∃ state, states id = some state)

include named

/-- Of machines with different identifiers one at most is the machine, so it is asked once. -/
theorem Keeps.partOf_answers (keeps : manager.Keeps machine other states current)
    {machines : List (Machine ω)} (distinct : (machines.map Machine.identifier).Nodup)
    (member : machine ∈ machines) :
    ∃ later, partOf machine.identifier machines
        (answersInTurn (askEntities event) seen machines manager world) =
      (machine.entities event (states.stateOf (seen.get? machine.identifier)) later).1.getD [] := by
  induction machines generalizing manager world with
  | nil => cases member
  | cons asked rest inductionHypothesis =>
      obtain ⟨isNew, restDistinct⟩ := List.nodup_cons.mp distinct
      rw [answersInTurn, partOf_cons]
      rcases List.mem_cons.mp member with rfl | isLater
      · refine ⟨(manager.read world seen machine.identifier).2.2, ?_⟩
        rw [if_pos rfl, partOf_of_not_mem isNew, List.append_nil, askEntities,
          keeps.read_fst world named]
      · have differs : asked.identifier ≠ machine.identifier :=
          fun same => isNew (same ▸ List.mem_map_of_mem isLater)
        rw [if_neg differs, List.nil_append]
        have read := keeps.questions (manager.questions_read world seen asked.identifier)
        exact inductionHypothesis _ read restDistinct isLater

/-- The entities that a machine gives to an event are those that it makes of the state in the
snapshot, if it is subscribed to give any. -/
theorem Keeps.entitiesBy (keeps : manager.Keeps machine other states current) :
    ∃ later, manager.entitiesBy machine.identifier world event seen =
      if machine.subscriptions.entities.selects event.identifier then
        (machine.entities event (states.stateOf (seen.get? machine.identifier)) later).1.getD []
      else
        [] := by
  have isRegistered := List.mem_of_find?_eq_some keeps.registered
  have distinct : ((manager.concerned Subscriptions.entities event).map
      Machine.identifier).Nodup :=
    keeps.distinct.sublist (List.filter_sublist.map _)
  split
  · next selected =>
    exact keeps.partOf_answers world event named distinct
      (List.mem_filter.mpr ⟨isRegistered, selected⟩)
  · next notSelected =>
    refine ⟨world, partOf_of_not_mem ?_ _⟩
    intro isAsked
    obtain ⟨asked, isConcerned, same⟩ := List.mem_map.mp isAsked
    obtain ⟨isMember, selected⟩ := List.mem_filter.mp isConcerned
    obtain rfl := List.inj_on_of_nodup_map keeps.distinct isMember isRegistered same
    exact notSelected selected

end Entities

/-- Whatever happens after an event, its snapshot shows of a machine the state that the events up
to it lead to, and the machine gives its entities by that state. -/
theorem entitiesBy_of_history (ignores : machine.IgnoresWorld) (other world : ω)
    (others : List (Machine ω)) (event : ObservedEvent) {earlier later : List (ManagerUse ω)}
    (spared : ∀ use ∈ earlier ++ later, use.Spares machine) :
    let noted := ((others.foldl Manager.add {}).add machine).useAll world earlier
    let taken := noted.1.snapshot noted.2 event
    let last := taken.2.1.useAll taken.2.2 later
    let state := (earlier.filterMap ManagerUse.observed? ++ [event]).foldl
      (fun state event => machine.follow other event state) none
    ∃ somewhere, last.1.entitiesBy machine.identifier last.2 event taken.1 =
      if machine.subscriptions.entities.selects event.identifier then
        (machine.entities event state somewhere).1.getD []
      else
        [] := by
  intro noted taken last state
  obtain ⟨sparedBefore, sparedAfter⟩ := List.forall_mem_append.mp spared
  obtain ⟨before, -, keptBefore⟩ :=
    (keeps_first others machine other).useAll ignores world sparedBefore
  obtain ⟨atEvent, -, keptAtEvent⟩ := keptBefore.snapshot ignores noted.2 event
  obtain ⟨atLast, grows, keptAtLast⟩ := keptAtEvent.useAll ignores taken.2.2 sparedAfter
  have named : ∀ id ∈ taken.1.get? machine.identifier, ∃ known, atLast id = some known :=
    fun id isNamed => (keptAtEvent.named id isNamed).imp (grows id)
  have isShown : atLast.stateOf (taken.1.get? machine.identifier) = state := by
    calc atLast.stateOf (taken.1.get? machine.identifier)
        = atEvent.stateOf (taken.1.get? machine.identifier) := grows.stateOf keptAtEvent.named
      _ = machine.follow other event (earlier.foldl (machine.afterUse other) none) :=
          keptAtEvent.shows
      _ = state := by
          simp only [state, machine.foldl_afterUse, List.foldl_append, List.foldl_cons,
            List.foldl_nil]
  obtain ⟨somewhere, given⟩ := keptAtLast.entitiesBy last.2 event named
  exact ⟨somewhere, isShown ▸ given⟩

end Manager

end Telemetry

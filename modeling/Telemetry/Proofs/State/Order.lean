import Telemetry.Proofs.State.Log

/-!
Contract: transitions are run in the order of their events, each once at most.

Owns:
- the order between the versions of a slot, its transitions that were noted, and the log;
- that every use of a manager keeps this order;
- what follows for a host that has done anything whatever.

Does not own: which world a machine acts on.

Of the versions of a slot only the newest can be due, because noting an event settles the one
before. So the log of a slot is what was noted for it, but for the newest.
-/

namespace Telemetry

variable {ω : Type}

namespace Watch

/-- The transitions of a slot that were noted and not run: one at most, whose version is due. -/
inductive Pending (manager : Manager (ω × List Run)) (owner : VersionId → Nat) (slot : Nat) :
    List ObservedEvent → Prop where
  | one {id : VersionId} {event : ObservedEvent} {previous : Option VersionId}
      {machine : Machine (ω × List Run)} :
      manager.versions[id]? = some (.due event previous machine) → owner id = slot →
        Pending manager owner slot [event]
  | none : (∀ id event previous machine,
      manager.versions[id]? = some (.due event previous machine) → owner id ≠ slot) →
        Pending manager owner slot []

theorem Pending.of_versions {manager other : Manager (ω × List Run)} {owner : VersionId → Nat}
    {slot : Nat} {pending : List ObservedEvent} (isPending : Pending manager owner slot pending)
    (same : other.versions = manager.versions) : Pending other owner slot pending := by
  cases isPending with
  | one isDue isOwner => exact .one (same ▸ isDue) isOwner
  | none noneDue => exact .none (same ▸ noneDue)

/-- Each version belongs to a slot, and of the versions of a slot only the latest can be due. What
was noted for a slot was run, but for that one. `owner` is the slot of a version. -/
structure InOrder (watch : Watch ω) (owner : VersionId → Nat) : Prop where
  linked : watch.manager.Linked
  tidy : watch.manager.Tidy
  logs : ∀ machine ∈ watch.manager.machines, machine.Logs (watch.slotOf machine.identifier)
  dueLogs : ∀ {id : VersionId} {event : ObservedEvent} {previous : Option VersionId}
    {machine : Machine (ω × List Run)},
      watch.manager.versions[id]? = some (.due event previous machine) → machine.Logs (owner id)
  taken : ∀ machine ∈ watch.manager.machines, watch.slotOf machine.identifier < watch.slots
  apart : ∀ machine ∈ watch.manager.machines, ∀ other ∈ watch.manager.machines,
    watch.slotOf machine.identifier = watch.slotOf other.identifier → machine = other
  owned : ∀ id < watch.manager.versions.size, owner id < watch.slots
  named : ∀ machine ∈ watch.manager.machines,
    ∀ id ∈ watch.manager.current.get? machine.identifier,
      owner id = watch.slotOf machine.identifier
  latest : ∀ machine ∈ watch.manager.machines, ∀ id < watch.manager.versions.size,
    owner id = watch.slotOf machine.identifier →
      ∃ newest ∈ watch.manager.current.get? machine.identifier, id ≤ newest
  lastDue : ∀ {id : VersionId} {event : ObservedEvent} {previous : Option VersionId}
    {machine : Machine (ω × List Run)},
      watch.manager.versions[id]? = some (.due event previous machine) →
        ∀ other < watch.manager.versions.size, owner other = owner id → other ≤ id
  begun : ∀ run ∈ watch.noted, run.slot < watch.slots
  ran : ∀ slot, ∃ pending, Pending watch.manager owner slot pending ∧
    watch.notedFor slot = watch.ranFor slot ++ pending

variable {watch : Watch ω} {owner : VersionId → Nat}

namespace InOrder

theorem start (world : ω) (owner : VersionId → Nat) :
    ({ world := (world, []) } : Watch ω).InOrder owner where
  linked := Manager.linked_empty
  tidy := .empty
  logs := fun _ member => absurd member List.not_mem_nil
  dueLogs := fun isDue => absurd isDue (by simp)
  taken := fun _ member => absurd member List.not_mem_nil
  apart := fun _ member => absurd member List.not_mem_nil
  owned := fun _ inside => absurd inside (Nat.not_lt_zero _)
  named := fun _ member => absurd member List.not_mem_nil
  latest := fun _ member => absurd member List.not_mem_nil
  lastDue := fun isDue => absurd isDue (by simp)
  begun := fun _ member => absurd member List.not_mem_nil
  ran := fun _ => ⟨[], .none fun _ _ _ _ isDue => absurd isDue (by simp), rfl⟩

/-! ### Questions -/

/-- A step that leaves the log and the manager leaves the order. -/
theorem leave_world (inOrder : watch.InOrder owner) {world : ω × List Run}
    (sameRuns : world.2 = watch.world.2) : (watch.leave (watch.manager, world)).InOrder owner := by
  have ran : ∀ slot, (watch.leave (watch.manager, world)).ranFor slot = watch.ranFor slot := by
    intro slot
    rw [ranFor, leave, sameRuns, ranFor]
  exact { inOrder with ran := fun slot => by rw [ran]; exact inOrder.ran slot }

/-- Of the versions of a slot one at most is due. -/
theorem eq_of_due (inOrder : watch.InOrder owner) {id other : VersionId}
    {event noted : ObservedEvent} {previous before : Option VersionId}
    {machine follower : Machine (ω × List Run)}
    (isDue : watch.manager.versions[id]? = some (.due event previous machine))
    (isOther : watch.manager.versions[other]? = some (.due noted before follower))
    (sameOwner : owner other = owner id) : other = id := by
  have inside : id < watch.manager.versions.size := (Array.getElem?_eq_some_iff.mp isDue).1
  have otherInside : other < watch.manager.versions.size :=
    (Array.getElem?_eq_some_iff.mp isOther).1
  apply Nat.le_antisymm
  · exact inOrder.lastDue isDue other otherInside sameOwner
  · exact inOrder.lastDue isOther id inside sameOwner.symm

/-- Running the transition of a version that is due takes it from what is pending. -/
theorem ran_withSettled (inOrder : watch.InOrder owner) {id : VersionId} {event : ObservedEvent}
    {previous : Option VersionId} {machine : Machine (ω × List Run)}
    (isDue : watch.manager.versions[id]? = some (.due event previous machine))
    (state : Option MachineState) (slot : Nat) :
    ∃ pending, Pending (watch.manager.withSettled id state) owner slot pending ∧
      watch.notedFor slot =
        Run.eventsOf (watch.world.2 ++ [⟨owner id, event⟩]) slot ++ pending := by
  obtain ⟨pending, isPending, noted⟩ := inOrder.ran slot
  by_cases same : owner id = slot
  · subst same
    refine ⟨[], .none fun other noted before follower isOther isOwner => ?_, ?_⟩
    · obtain ⟨differs, wasDue⟩ := Manager.due_of_withSettled isOther
      exact differs (inOrder.eq_of_due isDue wasDue isOwner).symm
    · rw [Run.eventsOf_concat_self, List.append_nil, noted]
      cases isPending with
      | none noneDue => exact absurd rfl (noneDue id event previous machine isDue)
      | one otherDue isOwner =>
          obtain rfl := inOrder.eq_of_due isDue otherDue isOwner
          obtain ⟨rfl, -, -⟩ := Version.due.inj (Option.some.inj (isDue.symm.trans otherDue))
          rfl
  · refine ⟨pending, ?_, by rw [Run.eventsOf_concat_other _ same]; exact noted⟩
    cases isPending with
    | @one other latest before follower otherDue isOwner =>
        have stillThere : (watch.manager.withSettled id state).versions[other]? =
            some (.due latest before follower) := by
          rw [Manager.getElem?_withSettled_of_ne state]
          · exact otherDue
          · rintro rfl
            exact same isOwner
        exact .one stillThere isOwner
    | none noneDue =>
        exact .none fun other noted before follower isOther =>
          noneDue other noted before follower (Manager.due_of_withSettled isOther).2

theorem settle (inOrder : watch.InOrder owner) (id : VersionId) :
    (watch.leave (watch.manager.settle watch.world id).2).InOrder owner := by
  rcases Manager.settle_cases inOrder.linked watch.world id with
    ⟨_, same⟩ | ⟨event, previous, machine, isDue, settled⟩
  · rw [same]
    exact inOrder
  · rw [settled]
    have logged := (inOrder.dueLogs isDue).transition event
      (watch.manager.settledState previous) watch.world
    generalize (machine.transition event (watch.manager.settledState previous) watch.world).2 =
      world at logged
    generalize machine.next watch.world event (watch.manager.settledState previous) = state
    have size := watch.manager.size_withSettled id state
    constructor
    case linked => exact inOrder.linked.withSettled id state
    case tidy => exact inOrder.tidy.withSettled id state
    case logs => exact inOrder.logs
    case dueLogs => exact fun isOther => inOrder.dueLogs (Manager.due_of_withSettled isOther).2
    case taken => exact inOrder.taken
    case apart => exact inOrder.apart
    case owned => exact fun other inside => inOrder.owned other (size ▸ inside)
    case named => exact inOrder.named
    case latest => exact fun follower member other inside =>
      inOrder.latest follower member other (size ▸ inside)
    case lastDue => exact fun isOther other inside =>
      inOrder.lastDue (Manager.due_of_withSettled isOther).2 other (size ▸ inside)
    case begun => exact inOrder.begun
    case ran =>
      intro slot
      rw [ranFor, leave, logged]
      exact inOrder.ran_withSettled isDue state slot

theorem questions (inOrder : watch.InOrder owner) {after : Manager (ω × List Run)}
    {later : ω × List Run} (asked : Manager.Questions watch.manager watch.world after later) :
    (watch.leave (after, later)).InOrder owner := by
  induction asked with
  | nothing => exact inOrder
  | settle id _ inductionHypothesis => exact inductionHypothesis.settle id
  | entities event state _ member inductionHypothesis =>
      exact inductionHypothesis.leave_world
        ((inductionHypothesis.logs _ member).entities event state _)
  | filter event state _ member inductionHypothesis =>
      exact inductionHypothesis.leave_world
        ((inductionHypothesis.logs _ member).filter event state _)

/-! ### Noting an event -/

/-- When the latest version of a machine is settled, no version of its slot is due. -/
theorem noneDue (inOrder : watch.InOrder owner) {machine : Machine (ω × List Run)}
    (member : machine ∈ watch.manager.machines)
    (held : ∀ before ∈ watch.manager.current.get? machine.identifier,
      watch.manager.isSettled before = true)
    {id : VersionId} {event : ObservedEvent} {previous : Option VersionId}
    {follower : Machine (ω × List Run)}
    (isDue : watch.manager.versions[id]? = some (.due event previous follower)) :
    owner id ≠ watch.slotOf machine.identifier := by
  intro isOwner
  have inside : id < watch.manager.versions.size := (Array.getElem?_eq_some_iff.mp isDue).1
  obtain ⟨newest, isNewest, notLater⟩ := inOrder.latest machine member id inside isOwner
  have sameOwner : owner newest = owner id :=
    (inOrder.named machine member newest isNewest).trans isOwner.symm
  have newestInside := inOrder.tidy.within machine.identifier newest isNewest
  obtain rfl : id = newest :=
    Nat.le_antisymm notLater (inOrder.lastDue isDue newest newestInside sameOwner)
  obtain ⟨state, isSettled⟩ := Manager.isSettled_iff.mp (held id isNewest)
  rw [isDue] at isSettled
  cases isSettled

/-- A new version is the newest of its slot, and the only one that is due. -/
theorem ran_note (inOrder : watch.InOrder owner) (event : ObservedEvent)
    {machine : Machine (ω × List Run)} (member : machine ∈ watch.manager.machines)
    (held : ∀ before ∈ watch.manager.current.get? machine.identifier,
      watch.manager.isSettled before = true) (slot : Nat) :
    ∃ pending, Pending (watch.note event machine).manager
        (Function.update owner watch.manager.versions.size (watch.slotOf machine.identifier)) slot
        pending ∧
      (watch.note event machine).notedFor slot = watch.ranFor slot ++ pending := by
  have atOld : ∀ {id : VersionId}, id < watch.manager.versions.size →
      Function.update owner watch.manager.versions.size (watch.slotOf machine.identifier) id =
        owner id := fun inside => Function.update_of_ne (Nat.ne_of_lt inside) _ _
  obtain ⟨pending, isPending, noted⟩ := inOrder.ran slot
  by_cases same : watch.slotOf machine.identifier = slot
  · subst same
    have isDue := watch.manager.getElem?_withDue_self event machine
    refine ⟨[event], .one isDue (Function.update_self _ _ _), ?_⟩
    cases isPending with
    | one otherDue isOwner => exact absurd isOwner (inOrder.noneDue member held otherDue)
    | none _ =>
        rw [List.append_nil] at noted
        rw [notedFor, Watch.note, Run.eventsOf_concat_self, ← noted, notedFor]
  · have sameNoted : (watch.note event machine).notedFor slot = watch.notedFor slot := by
      rw [notedFor, Watch.note, Run.eventsOf_concat_other _ same, notedFor]
    refine ⟨pending, ?_, sameNoted.trans noted⟩
    cases isPending with
    | @one id latest before follower isDue isOwner =>
        have inside : id < watch.manager.versions.size := (Array.getElem?_eq_some_iff.mp isDue).1
        have stillDue : (watch.note event machine).manager.versions[id]? =
            some (.due latest before follower) := by
          rw [Watch.note, Manager.getElem?_withDue_of_lt event machine inside]
          exact isDue
        exact .one stillDue ((atOld inside).trans isOwner)
    | none noneDue =>
        refine .none fun id latest before follower isDue => ?_
        rcases Manager.due_of_withDue isDue with ⟨isNew, -⟩ | ⟨inside, wasDue⟩
        · rw [isNew, Function.update_self]
          exact same
        · rw [atOld inside]
          exact noneDue id latest before follower wasDue

theorem note (inOrder : watch.InOrder owner) (event : ObservedEvent)
    {machine : Machine (ω × List Run)} (member : machine ∈ watch.manager.machines)
    (held : ∀ before ∈ watch.manager.current.get? machine.identifier,
      watch.manager.isSettled before = true) :
    (watch.note event machine).InOrder
      (Function.update owner watch.manager.versions.size (watch.slotOf machine.identifier)) := by
  have size := watch.manager.size_withDue event machine
  have atNew : Function.update owner watch.manager.versions.size
      (watch.slotOf machine.identifier) watch.manager.versions.size =
        watch.slotOf machine.identifier := Function.update_self _ _ _
  have atOld : ∀ {id : VersionId}, id ≠ watch.manager.versions.size →
      Function.update owner watch.manager.versions.size (watch.slotOf machine.identifier) id =
        owner id := fun isOld => Function.update_of_ne isOld _ _
  constructor
  case linked => exact inOrder.linked.withDue event held
  case tidy => exact inOrder.tidy.withDue event member
  case logs => exact inOrder.logs
  case dueLogs =>
    intro id latest previous follower isDue
    rcases Manager.due_of_withDue isDue with ⟨isNew, -, -, rfl⟩ | ⟨inside, wasDue⟩
    · rw [isNew, atNew]
      exact inOrder.logs follower member
    · rw [atOld (Nat.ne_of_lt inside)]
      exact inOrder.dueLogs wasDue
  case taken => exact inOrder.taken
  case apart => exact inOrder.apart
  case owned =>
    intro id inside
    rw [Watch.note, size] at inside
    by_cases isNew : id = watch.manager.versions.size
    · rw [isNew, atNew]
      exact inOrder.taken machine member
    · rw [atOld isNew]
      exact inOrder.owned id (by omega)
  case named =>
    intro other isMember id isNamed
    rw [Watch.note, Manager.get?_current_withDue] at isNamed
    split at isNamed
    · next same =>
      obtain rfl := Option.some.inj isNamed
      rw [atNew, same]
      rfl
    · have inside := inOrder.tidy.within other.identifier id isNamed
      rw [atOld (Nat.ne_of_lt inside)]
      exact inOrder.named other isMember id isNamed
  case latest =>
    intro other isMember id inside isOwner
    rw [Watch.note, size] at inside
    rw [Watch.note, Manager.get?_current_withDue]
    split
    · exact ⟨watch.manager.versions.size, rfl, by omega⟩
    · next differs =>
      by_cases isNew : id = watch.manager.versions.size
      · rw [isNew, atNew] at isOwner
        exact absurd (congrArg Machine.identifier (inOrder.apart machine member other isMember
          isOwner)) differs
      · rw [atOld isNew] at isOwner
        exact inOrder.latest other isMember id (by omega) isOwner
  case lastDue =>
    intro id latest previous follower isDue other inside sameOwner
    rw [Watch.note, size] at inside
    rcases Manager.due_of_withDue isDue with ⟨isNew, -⟩ | ⟨isOld, wasDue⟩
    · rw [isNew]
      omega
    · rw [atOld (Nat.ne_of_lt isOld)] at sameOwner
      by_cases isNew : other = watch.manager.versions.size
      · rw [isNew, atNew] at sameOwner
        exact absurd sameOwner.symm (inOrder.noneDue member held wasDue)
      · rw [atOld isNew] at sameOwner
        exact inOrder.lastDue wasDue other (by omega) sameOwner
  case begun =>
    intro run isNoted
    rcases List.mem_append.mp isNoted with wasNoted | isNew
    · exact inOrder.begun run wasNoted
    · obtain rfl := List.mem_singleton.mp isNew
      exact inOrder.taken machine member
  case ran => exact inOrder.ran_note event member held

/-- A machine follows an event: its latest version is settled, and the new one is noted. -/
theorem advance (inOrder : watch.InOrder owner) (event : ObservedEvent)
    {machine : Machine (ω × List Run)} (member : machine ∈ watch.manager.machines) :
    ∃ owner, ((watch.leave (watch.manager.state watch.world machine.identifier).2).note event
      machine).InOrder owner := by
  have asked :=
    watch.manager.questions_read watch.world watch.manager.current machine.identifier
  have held := Manager.isSettled_state inOrder.linked watch.world machine.identifier
  rw [← asked.frame.2.1] at held
  exact ⟨_, (inOrder.questions asked).note event (asked.frame.1 ▸ member) held⟩

theorem noteAll (inOrder : watch.InOrder owner) (event : ObservedEvent)
    {machines : List (Machine (ω × List Run))} (registered : machines ⊆ watch.manager.machines) :
    ∃ owner, (watch.noteAll event machines).InOrder owner := by
  induction machines generalizing watch owner with
  | nil =>
      refine ⟨owner, ?_⟩
      rw [Watch.noteAll, notes, List.filter_nil, List.map_nil, List.append_nil]
      exact inOrder
  | cons machine rest inductionHypothesis =>
      obtain ⟨member, restRegistered⟩ := List.cons_subset.mp registered
      rw [Watch.noteAll, Manager.advanceAll, notes_cons]
      split
      · have same := (watch.manager.questions_read watch.world watch.manager.current
          machine.identifier).frame.1
        obtain ⟨_, noted⟩ := inOrder.advance event member
        obtain ⟨last, inOrderAfter⟩ := inductionHypothesis noted (same.symm ▸ restRegistered)
        refine ⟨last, ?_⟩
        rw [Manager.advance_eq, List.append_cons]
        exact inOrderAfter
      · exact inductionHypothesis inOrder restRegistered

theorem observe (inOrder : watch.InOrder owner) (event : ObservedEvent) :
    ∃ owner, (watch.observe event).InOrder owner :=
  inOrder.noteAll event (List.Subset.refl _)

/-! ### Registration -/

/-- A machine goes on with the slot of one of its kind, or begins a slot, and then it has no latest
version. -/
theorem slotFor_cases (inOrder : watch.InOrder owner) (machine : Machine ω) :
    (∃ held ∈ watch.manager.machines, held.identifier = machine.identifier ∧
        watch.slotFor machine = watch.slotOf held.identifier ∧
        (watch.register machine).manager.current.get? machine.identifier =
          watch.manager.current.get? held.identifier) ∨
      watch.slotFor machine = watch.slots ∧
        (watch.register machine).manager.current.get? machine.identifier = none := by
  have current : (watch.register machine).manager.current.get? machine.identifier =
      if ∃ held, watch.manager.find? machine.identifier = some held ∧
          held.kind ≠ machine.kind then
        none
      else
        watch.manager.current.get? machine.identifier := by
    rw [register, Manager.get?_current_add]
    simp [Machine.logging]
  rw [current, slotFor]
  cases found : watch.manager.find? machine.identifier with
  | none =>
      refine .inr ⟨rfl, ?_⟩
      rw [if_neg (by simp)]
      refine Option.eq_none_iff_forall_ne_some.mpr fun id named => ?_
      exact (Manager.find?_eq_none_iff _ _).mp found (inOrder.tidy.owned named)
  | some held =>
      have isHeld := Manager.find?_identifier found
      by_cases sameKind : held.kind = machine.kind
      · refine .inl ⟨held, List.mem_of_find?_eq_some found, isHeld, ?_, ?_⟩
        · simp [sameKind, isHeld]
        · simp [sameKind, isHeld]
      · exact .inr (by simp [sameKind])

theorem mem_register_cases (inOrder : watch.InOrder owner) {machine : Machine ω}
    {member : Machine (ω × List Run)}
    (isMember : member ∈ (watch.register machine).manager.machines) :
    member = machine.logging (watch.slotFor machine) ∨
      member ∈ watch.manager.machines ∧ member.identifier ≠ machine.identifier :=
  inOrder.tidy.mem_add_cases isMember

/-- The slot of a machine that is registered is that of no other. -/
theorem slotFor_ne (inOrder : watch.InOrder owner) {machine : Machine ω}
    {other : Machine (ω × List Run)} (isMember : other ∈ watch.manager.machines)
    (differs : other.identifier ≠ machine.identifier) :
    watch.slotFor machine ≠ watch.slotOf other.identifier := by
  intro same
  rcases inOrder.slotFor_cases machine with ⟨held, isHeld, identifier, slot, -⟩ | ⟨slot, -⟩
  · obtain rfl := inOrder.apart held isHeld other isMember (slot.symm.trans same)
    exact differs identifier
  · have := inOrder.taken other isMember
    omega

theorem register (inOrder : watch.InOrder owner) (machine : Machine ω) :
    (watch.register machine).InOrder owner := by
  have versions := watch.versions_register machine
  have slotOfSelf := watch.slotOf_register_self machine
  have slotOfOther : ∀ {identifier : String}, identifier ≠ machine.identifier →
      (watch.register machine).slotOf identifier = watch.slotOf identifier :=
    fun differs => watch.slotOf_register_of_ne differs
  have currentOfOther : ∀ {identifier : String}, identifier ≠ machine.identifier →
      (watch.register machine).manager.current.get? identifier =
        watch.manager.current.get? identifier :=
    fun differs => watch.get?_current_register_of_ne differs
  have slots : watch.slots ≤ (watch.register machine).slots := Nat.le_max_left _ _
  constructor
  case linked => exact inOrder.linked.add _
  case tidy => exact inOrder.tidy.add _
  case logs =>
    intro member isMember
    rcases inOrder.mem_register_cases isMember with rfl | ⟨wasMember, differs⟩
    · exact slotOfSelf ▸ machine.logs_logging _
    · rw [slotOfOther differs]
      exact inOrder.logs member wasMember
  case dueLogs => rw [versions]; exact inOrder.dueLogs
  case taken =>
    intro member isMember
    rcases inOrder.mem_register_cases isMember with rfl | ⟨wasMember, differs⟩
    · rw [Machine.logging, slotOfSelf]
      exact Nat.le_max_right _ _
    · rw [slotOfOther differs]
      exact Nat.lt_of_lt_of_le (inOrder.taken member wasMember) slots
  case apart =>
    intro member isMember other isOther same
    rcases inOrder.mem_register_cases isMember with rfl | ⟨wasMember, differs⟩ <;>
      rcases inOrder.mem_register_cases isOther with rfl | ⟨wasOther, otherDiffers⟩
    · rfl
    · rw [Machine.logging, slotOfSelf, slotOfOther otherDiffers] at same
      exact absurd same (inOrder.slotFor_ne wasOther otherDiffers)
    · rw [slotOfOther differs, Machine.logging, slotOfSelf] at same
      exact absurd same.symm (inOrder.slotFor_ne wasMember differs)
    · rw [slotOfOther differs, slotOfOther otherDiffers] at same
      exact inOrder.apart member wasMember other wasOther same
  case owned =>
    rw [versions]
    exact fun id inside => Nat.lt_of_lt_of_le (inOrder.owned id inside) slots
  case named =>
    intro member isMember id named
    rcases inOrder.mem_register_cases isMember with rfl | ⟨wasMember, differs⟩
    · rw [Machine.logging] at named ⊢
      rw [slotOfSelf]
      rcases inOrder.slotFor_cases machine with ⟨held, isHeld, -, slot, current⟩ | ⟨-, current⟩
      · rw [slot]
        exact inOrder.named held isHeld id (current ▸ named)
      · rw [current] at named
        cases named
    · rw [slotOfOther differs]
      exact inOrder.named member wasMember id (currentOfOther differs ▸ named)
  case latest =>
    intro member isMember id inside isOwner
    rw [versions] at inside
    rcases inOrder.mem_register_cases isMember with rfl | ⟨wasMember, differs⟩
    · rw [Machine.logging] at isOwner ⊢
      rw [slotOfSelf] at isOwner
      rcases inOrder.slotFor_cases machine with ⟨held, isHeld, -, slot, current⟩ | ⟨slot, -⟩
      · rw [current]
        exact inOrder.latest held isHeld id inside (isOwner.trans slot)
      · have := inOrder.owned id inside
        omega
    · rw [slotOfOther differs] at isOwner
      rw [currentOfOther differs]
      exact inOrder.latest member wasMember id inside isOwner
  case lastDue => rw [versions]; exact inOrder.lastDue
  case begun => exact fun run noted => Nat.lt_of_lt_of_le (inOrder.begun run noted) slots
  case ran =>
    intro slot
    obtain ⟨pending, isPending, noted⟩ := inOrder.ran slot
    exact ⟨pending, isPending.of_versions versions, noted⟩

theorem remove (inOrder : watch.InOrder owner) (removed : String) :
    (watch.leave (watch.manager.remove removed, watch.world)).InOrder owner := by
  have machines : ∀ {member : Machine (ω × List Run)},
      member ∈ (watch.manager.remove removed).machines →
        member ∈ watch.manager.machines ∧
          (watch.manager.remove removed).current.get? member.identifier =
            watch.manager.current.get? member.identifier := by
    intro member isMember
    obtain ⟨wasMember, differs⟩ := List.mem_filter.mp isMember
    refine ⟨wasMember, ?_⟩
    rw [Manager.remove, Entries.get?_erase, if_neg]
    rintro rfl
    simp at differs
  constructor
  case linked => exact inOrder.linked.remove removed
  case tidy => exact inOrder.tidy.remove removed
  case logs => exact fun member isMember => inOrder.logs member (machines isMember).1
  case dueLogs => exact inOrder.dueLogs
  case taken => exact fun member isMember => inOrder.taken member (machines isMember).1
  case apart =>
    exact fun member isMember other isOther =>
      inOrder.apart member (machines isMember).1 other (machines isOther).1
  case owned => exact inOrder.owned
  case named =>
    intro member isMember id named
    obtain ⟨wasMember, current⟩ := machines isMember
    exact inOrder.named member wasMember id (current ▸ named)
  case latest =>
    intro member isMember id inside isOwner
    obtain ⟨wasMember, current⟩ := machines isMember
    rw [leave, current]
    exact inOrder.latest member wasMember id inside isOwner
  case lastDue => exact inOrder.lastDue
  case begun => exact inOrder.begun
  case ran =>
    intro slot
    obtain ⟨pending, isPending, noted⟩ := inOrder.ran slot
    exact ⟨pending, isPending.of_versions rfl, noted⟩

/-! ### Every series of uses -/

theorem use (inOrder : watch.InOrder owner) (use : ManagerUse ω) :
    ∃ owner, (watch.use use).InOrder owner := by
  cases use with
  | move move =>
      cases move with
      | add machine => exact ⟨owner, inOrder.register machine⟩
      | remove identifier => exact ⟨owner, inOrder.remove identifier⟩
      | observe event => exact inOrder.observe event
      | read seen identifier =>
          exact ⟨owner, inOrder.questions (watch.manager.questions_read _ seen identifier)⟩
      | elsewhere change => exact ⟨owner, inOrder.leave_world rfl⟩
  | entities event seen =>
      exact ⟨owner, inOrder.questions (watch.manager.questions_entities _ event seen)⟩
  | payloadValues event seen fields =>
      exact ⟨owner,
        inOrder.questions (watch.manager.questions_addPayloadValues _ event seen fields)⟩
  | accepts event seen =>
      exact ⟨owner, inOrder.questions (watch.manager.questions_accepts _ event seen)⟩
  | afterTrack event =>
      refine ⟨owner, inOrder.leave_world ?_⟩
      -- Each of the machines that are told leaves the log.
      refine List.foldlRecOn
        (motive := fun world : ω × List Run => world.2 = watch.world.2) _ _ rfl ?_
      intro world sameRuns machine isConcerned
      rw [(inOrder.logs machine (List.mem_filter.mp isConcerned).1).afterTrack]
      exact sameRuns

end InOrder

theorem inOrder_after (world : ω) (uses : List (ManagerUse ω)) :
    ∃ owner, (after world uses).InOrder owner := by
  induction uses using List.reverseRecOn with
  | nil => exact ⟨fun _ => 0, .start world _⟩
  | append_singleton uses use inductionHypothesis =>
      obtain ⟨_, inOrder⟩ := inductionHypothesis
      rw [after_concat]
      exact inOrder.use use

/-! ### What a host can rely on -/

/-- The transitions of a slot are run in the order in which they were noted, and only the latest
can be pending. A version that is due has one before it that is settled, so computing it reaches no
further. A snapshot, and nothing else, notes its event once for each machine that follows it, and by
then whatever was noted for that machine before has run. A slot begins with nothing noted. -/
structure Orderly (watch : Watch ω) : Prop where
  ran : ∀ slot, ∃ pending, pending.length ≤ 1 ∧
    watch.notedFor slot = watch.ranFor slot ++ pending
  ready : ∀ {id : VersionId} {event : ObservedEvent} {previous : Option VersionId}
    {machine : Machine (ω × List Run)},
      watch.manager.versions[id]? = some (.due event previous machine) →
        ∀ before ∈ previous, watch.manager.isSettled before = true
  shallow : ∀ id,
    watch.manager.settle watch.world id = Manager.settleWithin 2 watch.manager watch.world id
  noted : ∀ event, ∀ machine ∈ watch.manager.machines,
    (watch.observe event).notedFor (watch.slotOf machine.identifier) =
      watch.notedFor (watch.slotOf machine.identifier) ++
        if machine.subscriptions.transitions.selects event.identifier then [event] else []
  quiet : ∀ use : ManagerUse ω, use.observed? = none → (watch.use use).noted = watch.noted
  notedElsewhere : ∀ event slot,
    (∀ machine ∈ watch.manager.machines, watch.slotOf machine.identifier ≠ slot) →
      (watch.observe event).notedFor slot = watch.notedFor slot
  caughtUp : ∀ event, ∀ machine ∈ watch.manager.machines,
    machine.subscriptions.transitions.selects event.identifier = true →
      watch.notedFor (watch.slotOf machine.identifier) <+:
        (watch.observe event).ranFor (watch.slotOf machine.identifier)
  fresh : ∀ slot, watch.slots ≤ slot → watch.notedFor slot = []

namespace InOrder

theorem ran_of_pending (inOrder : watch.InOrder owner) (slot : Nat) :
    ∃ pending, pending.length ≤ 1 ∧ watch.notedFor slot = watch.ranFor slot ++ pending := by
  obtain ⟨pending, isPending, noted⟩ := inOrder.ran slot
  refine ⟨pending, ?_, noted⟩
  cases isPending <;> simp

theorem notedFor_observe (inOrder : watch.InOrder owner) (event : ObservedEvent)
    {machine : Machine (ω × List Run)} (member : machine ∈ watch.manager.machines) :
    (watch.observe event).notedFor (watch.slotOf machine.identifier) =
      watch.notedFor (watch.slotOf machine.identifier) ++
        if machine.subscriptions.transitions.selects event.identifier then [event] else [] := by
  have distinct : watch.manager.machines.Nodup := inOrder.tidy.distinct.of_map _
  calc (watch.observe event).notedFor (watch.slotOf machine.identifier)
      = watch.notedFor (watch.slotOf machine.identifier) ++
          Run.eventsOf (watch.notes watch.manager.machines event)
            (watch.slotOf machine.identifier) := Run.eventsOf_append _ _ _
    _ = _ := by rw [watch.eventsOf_notes event distinct inOrder.apart member]

theorem orderly (inOrder : watch.InOrder owner) : watch.Orderly := by
  constructor
  case ran => exact inOrder.ran_of_pending
  case ready =>
    exact fun isDue before isBefore => (inOrder.linked.chained isDue before isBefore).2
  case shallow => exact Manager.settle_eq_settleWithin_two inOrder.linked watch.world
  case noted => exact fun event machine member => inOrder.notedFor_observe event member
  case quiet =>
    intro use notObserved
    cases use with
    | move move =>
        cases move with
        | observe event => cases notObserved
        | _ => rfl
    | _ => rfl
  case notedElsewhere =>
    intro event slot apart
    rw [notedFor, Watch.observe, Watch.noteAll, Run.eventsOf_append,
      watch.eventsOf_notes_of_apart event apart, List.append_nil]
    rfl
  case caughtUp =>
    intro event machine member selected
    obtain ⟨_, after⟩ := inOrder.observe event
    obtain ⟨pending, atMostOne, noted⟩ :=
      after.ran_of_pending (watch.slotOf machine.identifier)
    rw [inOrder.notedFor_observe event member, if_pos selected] at noted
    cases pending with
    | nil =>
        rw [List.append_nil] at noted
        exact ⟨[event], noted⟩
    | cons newest rest =>
        obtain rfl : rest = [] := List.length_eq_zero_iff.mp (by simpa using atMostOne)
        have allRun := (List.append_inj' noted rfl).1
        exact ⟨[], by rw [List.append_nil, allRun]⟩
  case fresh =>
    intro slot isLater
    rw [notedFor, Run.eventsOf, List.filter_eq_nil_iff.mpr, List.map_nil]
    intro run isNoted
    have := inOrder.begun run isNoted
    simp
    omega

end InOrder

end Watch

end Telemetry

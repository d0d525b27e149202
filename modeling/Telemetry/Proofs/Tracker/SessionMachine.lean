import Telemetry.Proofs.State.Uses
import Telemetry.Proofs.Tracker.Machines

/-!
Contract: what becomes of a tracker's session while its machines are asked.

Owns:
- worlds with the same session and the same stores;
- that of a tracker's machines only the session's changes them, and only by its transition;
- managers with that machine, and what a version of it that is due will make of the session;
- that noting an event makes one such version due, and that asking for entities settles it.

Does not own: the calls of a tracker.
-/

namespace Telemetry

variable {η : Type}

/-- The settings and the source of identifiers are the same. What was published may differ. -/
structure Resources.SameStores (resources other : Resources) : Prop where
  settings : other.settings = resources.settings
  uuids : other.uuids = resources.uuids

namespace Resources.SameStores

variable {resources other third : Resources}

theorem trans (first : resources.SameStores other) (second : other.SameStores third) :
    resources.SameStores third :=
  ⟨second.settings.trans first.settings, second.uuids.trans first.uuids⟩

theorem draw (same : resources.SameStores other) :
    other.draw.1 = resources.draw.1 ∧ resources.draw.2.SameStores other.draw.2 := by
  rw [Resources.draw, Resources.draw, same.uuids]
  exact ⟨rfl, same.settings, rfl⟩

/-- What was published makes no difference to a session. -/
theorem update (same : resources.SameStores other) (session : Session) (event : Uuid)
    (instant : Int) (signal : Option LifecycleSignal) :
    (session.update other event instant signal).1 =
        (session.update resources event instant signal).1 ∧
      (session.update resources event instant signal).2.SameStores
        (session.update other event instant signal).2 := by
  obtain ⟨identifiers, drawn⟩ := same.draw
  simp only [Session.update, Session.persist, Resources.write, identifiers, drawn.settings]
  split
  · exact ⟨rfl, rfl, drawn.uuids⟩
  · exact ⟨rfl, rfl, drawn.uuids⟩

end Resources.SameStores

namespace World

/-- The session and the stores are the same. -/
structure SameSession (world other : World η) : Prop where
  session : other.session = world.session
  stores : world.resources.SameStores other.resources

theorem sameSession_cumulative : Cumulative (SameSession (η := η)) where
  still := fun _ => ⟨rfl, rfl, rfl⟩
  along := fun first second =>
    ⟨second.session.trans first.session, first.stores.trans second.stores⟩

variable {world other : World η}

theorem sameSession_of_eq (session : other.session = world.session)
    (resources : other.resources = world.resources) : world.SameSession other :=
  ⟨session, congrArg Resources.settings resources, congrArg Resources.uuids resources⟩

theorem SameSession.updateSession (same : world.SameSession other) (event : ObservedEvent) :
    (world.updateSession event).2.SameSession (other.updateSession event).2 := by
  rw [World.updateSession, World.updateSession, same.session]
  cases world.session with
  | none => exact same
  | some session =>
      obtain ⟨sessions, stores⟩ := same.stores.update session event.id event.timestamp
        (LifecycleSignal.ofSchema? event.schema)
      exact ⟨congrArg some sessions, stores⟩

end World

/-! ### Machines -/

/-- The transitions of a machine leave the session. -/
def Machine.LeavesSession (machine : Machine (World η)) : Prop :=
  ∀ (event : ObservedEvent) (state : Option MachineState) (world : World η),
    world.SameSession (machine.transition event state world).2

namespace World

variable {hosted : Machine η → Prop} {machine : Machine (World η)}

theorem platformEntity_sameSession (world : World η) :
    world.SameSession world.platformEntity.2 := by
  refine sameSession_of_eq ?_ world.platformEntity_resources
  unfold World.platformEntity
  split <;> rfl

/-- Of a tracker's machines only the session's changes the session. -/
theorem Origin.session_or_leaves (origin : Origin hosted machine) :
    machine = sessionMachine η ∨ machine.LeavesSession := by
  cases origin with
  | session => exact .inl rfl
  | lifecycle => exact .inr fun _ _ world => sameSession_cumulative.still world
  | deepLink => exact .inr fun _ _ world => sameSession_cumulative.still world
  | platform => exact .inr fun _ _ world => sameSession_cumulative.still world
  | host machine _ => exact .inr fun _ _ _ => sameSession_of_eq rfl rfl

theorem Origin.entities_sameSession (origin : Origin hosted machine) (event : ObservedEvent)
    (state : Option MachineState) (world : World η) :
    world.SameSession (machine.entities event state world).2 := by
  cases origin with
  | platform => exact world.platformEntity_sameSession
  | _ => exact sameSession_of_eq rfl rfl

theorem Origin.filter_sameSession (origin : Origin hosted machine) (event : ObservedEvent)
    (state : Option MachineState) (world : World η) :
    world.SameSession (machine.filter event state world).2 := by
  cases origin <;> exact sameSession_of_eq rfl rfl

theorem Origin.afterTrack_sameSession (origin : Origin hosted machine) (event : ObservedEvent)
    (world : World η) : world.SameSession (machine.afterTrack event world) := by
  cases origin <;> exact sameSession_of_eq rfl rfl

end World

/-! ### Managers with the machine of the session -/

namespace Manager

/-- The machine of the session is registered, among built-in machines and those of a host. -/
structure HasSession (manager : Manager (World η)) : Prop where
  linked : manager.Linked
  tidy : manager.Tidy
  origins : ∀ machine ∈ manager.machines, World.Origin (fun _ => True) machine
  registered : manager.find? World.sessionIdentifier = some (World.sessionMachine η)

/-- No version is due that will change the session. -/
structure Idle (manager : Manager (World η)) : Prop where
  leaves : ∀ {id : VersionId} {event : ObservedEvent} {previous : Option VersionId}
    {machine : Machine (World η)},
      manager.versions[id]? = some (.due event previous machine) → machine.LeavesSession

/-- What becomes of the session: it is as in `target`, or the one version that will change it is
due and leads there. -/
inductive SessionTo (manager : Manager (World η)) (world target : World η) :
    Option VersionId → Prop where
  | reached {newest : Option VersionId} : manager.Idle → target.SameSession world →
      SessionTo manager world target newest
  | due {newest : VersionId} {event : ObservedEvent} {previous : Option VersionId} :
      manager.versions[newest]? = some (.due event previous (World.sessionMachine η)) →
        (∀ {id : VersionId} {event : ObservedEvent} {previous : Option VersionId}
          {machine : Machine (World η)}, id ≠ newest →
            manager.versions[id]? = some (.due event previous machine) →
              machine.LeavesSession) →
        target.SameSession (world.updateSession event).2 →
          SessionTo manager world target (some newest)

variable {manager : Manager (World η)} {world target : World η} {newest : Option VersionId}

theorem HasSession.questions (has : manager.HasSession) {after : Manager (World η)}
    {later : World η} (asked : Questions manager world after later) : after.HasSession where
  linked := has.linked.questions asked
  tidy := has.tidy.questions asked
  origins := asked.frame.1.symm ▸ has.origins
  registered := by
    rw [Manager.find?, asked.frame.1]
    exact has.registered

theorem Idle.add (idle : manager.Idle) (machine : Machine (World η)) :
    (manager.add machine).Idle :=
  ⟨by rw [add_versions]; exact idle.leaves⟩

/-- The machines that are told of a tracked event leave the session. -/
theorem HasSession.afterTrack (has : manager.HasSession) (world : World η)
    (event : ObservedEvent) : world.SameSession (manager.afterTrack world event) := by
  refine List.foldlRecOn (motive := fun later => world.SameSession later) _ _
    (World.sameSession_cumulative.still world) ?_
  intro later same machine isConcerned
  have origin := has.origins machine (List.mem_filter.mp isConcerned).1
  exact World.sameSession_cumulative.along same (origin.afterTrack_sameSession event later)

/-! ### Versions that are due -/

theorem Idle.withDue (idle : manager.Idle) (event : ObservedEvent) {machine : Machine (World η)}
    (leaves : machine.LeavesSession) : (manager.withDue event machine).Idle :=
  ⟨fun isDue => by
    rcases due_of_withDue isDue with ⟨-, -, -, rfl⟩ | ⟨-, wasDue⟩
    · exact leaves
    · exact idle.leaves wasDue⟩

namespace SessionTo

/-! ### Questions -/

/-- Other things of the world may change. -/
theorem of_sameSession (becomes : manager.SessionTo world target newest) {later : World η}
    (same : world.SameSession later) : manager.SessionTo later target newest := by
  cases becomes with
  | reached idle isTarget =>
      exact .reached idle (World.sameSession_cumulative.along isTarget same)
  | due isDue others leads =>
      exact .due isDue others
        (World.sameSession_cumulative.along leads (same.updateSession _))

theorem settle (becomes : manager.SessionTo world target newest) (linked : manager.Linked)
    (id : VersionId) :
    (manager.settle world id).2.1.SessionTo (manager.settle world id).2.2 target newest := by
  rcases settle_cases linked world id with
    ⟨_, same⟩ | ⟨event, previous, machine, isDue, settled⟩
  · rw [same]
    exact becomes
  · rw [settled]
    cases becomes with
    | reached idle isTarget =>
        exact .reached ⟨fun isOther => idle.leaves (due_of_withSettled isOther).2⟩
          (World.sameSession_cumulative.along isTarget (idle.leaves isDue _ _ _))
    | @due newest noted before isNewest others leads =>
        by_cases same : id = newest
        · subst same
          obtain ⟨rfl, rfl, rfl⟩ := Version.due.inj (Option.some.inj (isDue.symm.trans isNewest))
          refine .reached ⟨fun isOther => ?_⟩ leads
          obtain ⟨differs, wasDue⟩ := due_of_withSettled isOther
          exact others differs.symm wasDue
        · have stillDue : (manager.withSettled id
              (machine.next world event (manager.settledState previous))).versions[newest]? =
                some (.due noted before (World.sessionMachine η)) := by
            rw [getElem?_withSettled_of_ne _ same]
            exact isNewest
          exact .due stillDue
            (fun differs isOther => others differs (due_of_withSettled isOther).2)
            (World.sameSession_cumulative.along leads
              ((others same isDue _ _ _).updateSession noted))

theorem questions (becomes : manager.SessionTo world target newest) (has : manager.HasSession)
    {after : Manager (World η)} {later : World η} (asked : Questions manager world after later) :
    after.SessionTo later target newest := by
  induction asked with
  | nothing => exact becomes
  | settle id earlier inductionHypothesis =>
      exact inductionHypothesis.settle (has.questions earlier).linked id
  | entities event state earlier member inductionHypothesis =>
      exact inductionHypothesis.of_sameSession
        (((has.questions earlier).origins _ member).entities_sameSession event state _)
  | filter event state earlier member inductionHypothesis =>
      exact inductionHypothesis.of_sameSession
        (((has.questions earlier).origins _ member).filter_sameSession event state _)

/-- When the version of the session is settled, the session is as it was to become. -/
theorem reached_of_isSettled {id : VersionId} (becomes : manager.SessionTo world target (some id))
    (held : manager.isSettled id = true) : manager.Idle ∧ target.SameSession world := by
  cases becomes with
  | reached idle isTarget => exact ⟨idle, isTarget⟩
  | due isDue others leads =>
      obtain ⟨state, isState⟩ := isSettled_iff.mp held
      rw [isDue] at isState
      cases isState

/-! ### Noting an event -/

theorem withDue_other (becomes : manager.SessionTo world target newest) (event : ObservedEvent)
    {machine : Machine (World η)} (leaves : machine.LeavesSession) :
    (manager.withDue event machine).SessionTo world target newest := by
  cases becomes with
  | reached idle isTarget => exact .reached (idle.withDue event leaves) isTarget
  | @due newest noted before isNewest others leads =>
      have inside := (Array.getElem?_eq_some_iff.mp isNewest).1
      have stillDue : (manager.withDue event machine).versions[newest]? =
          some (.due noted before (World.sessionMachine η)) := by
        rw [getElem?_withDue_of_lt event machine inside]
        exact isNewest
      refine .due stillDue (fun differs isDue => ?_) leads
      rcases due_of_withDue isDue with ⟨-, -, -, rfl⟩ | ⟨-, wasDue⟩
      · exact leaves
      · exact others differs wasDue

theorem withDue_session (idle : manager.Idle) (isTarget : target.SameSession world)
    (event : ObservedEvent) :
    (manager.withDue event (World.sessionMachine η)).SessionTo world (target.updateSession event).2
      (some manager.versions.size) := by
  refine .due (getElem?_withDue_self manager event _) (fun differs isDue => ?_)
    (isTarget.updateSession event)
  rcases due_of_withDue isDue with ⟨isNew, -⟩ | ⟨-, wasDue⟩
  · exact absurd isNew differs
  · exact idle.leaves wasDue

end SessionTo

/-- Questions leave the session unless a version of it is due. -/
theorem Idle.questions (idle : manager.Idle) (has : manager.HasSession)
    {after : Manager (World η)} {later : World η} (asked : Questions manager world after later) :
    after.Idle ∧ world.SameSession later := by
  have reached : manager.SessionTo world world none :=
    .reached idle (World.sameSession_cumulative.still world)
  cases reached.questions has asked with
  | reached idleAfter same => exact ⟨idleAfter, same⟩

namespace HasSession

theorem withDue (has : manager.HasSession) (event : ObservedEvent) {machine : Machine (World η)}
    (member : machine ∈ manager.machines)
    (held : ∀ before ∈ manager.current.get? machine.identifier,
      manager.isSettled before = true) : (manager.withDue event machine).HasSession where
  linked := has.linked.withDue event held
  tidy := has.tidy.withDue event member
  origins := has.origins
  registered := has.registered

theorem advance (has : manager.HasSession) (world : World η) (event : ObservedEvent)
    {machine : Machine (World η)} (member : machine ∈ manager.machines) :
    (manager.advance world event machine).1.HasSession := by
  have asked := manager.questions_read world manager.current machine.identifier
  obtain ⟨machines, current, -⟩ := asked.frame
  have held := isSettled_state has.linked world machine.identifier
  rw [← current] at held
  rw [advance_eq]
  exact (has.questions asked).withDue event (machines.symm ▸ member) held

/-- The machine of the session has its own identifier. -/
theorem leaves_of_ne (has : manager.HasSession) {machine : Machine (World η)}
    (member : machine ∈ manager.machines) (differs : machine.identifier ≠ World.sessionIdentifier) :
    machine.LeavesSession := by
  rcases (has.origins machine member).session_or_leaves with rfl | leaves
  · exact absurd rfl differs
  · exact leaves

theorem mem_session (has : manager.HasSession) : World.sessionMachine η ∈ manager.machines :=
  List.mem_of_find?_eq_some has.registered

theorem add (has : manager.HasSession) {machine : Machine η}
    (differs : machine.identifier ≠ World.sessionIdentifier) :
    (manager.add (World.lift machine)).HasSession where
  linked := has.linked.add _
  tidy := has.tidy.add _
  origins := fun member isMember =>
    (mem_add isMember).elim (fun isNew => isNew ▸ .host machine trivial) (has.origins member)
  registered := by
    have differsLifted : (World.lift machine).identifier ≠ World.sessionIdentifier := differs
    rw [find?_add, if_neg differsLifted]
    exact has.registered

theorem remove (has : manager.HasSession) {removed : String}
    (differs : removed ≠ World.sessionIdentifier) : (manager.remove removed).HasSession where
  linked := has.linked.remove removed
  tidy := has.tidy.remove removed
  origins := fun machine member => has.origins machine (List.mem_filter.mp member).1
  registered := by
    rw [find?_remove, if_neg differs]
    exact has.registered

end HasSession

/-- What is known when an event was noted: where the session goes, and which version shows it. -/
structure SessionNoted (manager : Manager (World η)) (world target : World η)
    (newest : VersionId) : Prop where
  has : manager.HasSession
  becomes : manager.SessionTo world target (some newest)
  named : manager.current.get? World.sessionIdentifier = some newest

theorem SessionNoted.questions {newest : VersionId}
    (noted : manager.SessionNoted world target newest) {after : Manager (World η)}
    {later : World η} (asked : Questions manager world after later) :
    after.SessionNoted later target newest :=
  ⟨noted.has.questions asked, noted.becomes.questions noted.has asked,
    asked.frame.2.1.symm ▸ noted.named⟩

/-- The machines that come after the session's leave where the session goes. -/
theorem SessionNoted.advanceAll {newest : VersionId}
    (noted : manager.SessionNoted world target newest) (event : ObservedEvent)
    {machines : List (Machine (World η))} (registered : machines ⊆ manager.machines)
    (others : World.sessionIdentifier ∉ machines.map Machine.identifier) :
    (advanceAll event machines manager world).1.SessionNoted
      (advanceAll event machines manager world).2 target newest := by
  induction machines generalizing manager world with
  | nil => exact noted
  | cons machine rest inductionHypothesis =>
      obtain ⟨member, restRegistered⟩ := List.cons_subset.mp registered
      obtain ⟨differs, restOthers⟩ := List.ne_and_not_mem_of_not_mem_cons others
      rw [Manager.advanceAll]
      split
      · have asked := manager.questions_read world manager.current machine.identifier
        obtain ⟨machines, current, -⟩ := asked.frame
        have has := noted.has.advance world event member
        have leaves := noted.has.leaves_of_ne member (Ne.symm differs)
        have becomes := (noted.becomes.questions noted.has asked).withDue_other event leaves
        rw [advance_eq] at has ⊢
        refine inductionHypothesis ⟨has, becomes, ?_⟩ (machines.symm ▸ restRegistered) restOthers
        rw [get?_current_withDue, if_neg (Ne.symm differs)]
        exact current.symm ▸ noted.named
      · exact inductionHypothesis noted restRegistered restOthers

/-- Noting an event makes a version due that will update the session by it. Machines have
different identifiers, so there is one such version. -/
theorem HasSession.advanceAll (has : manager.HasSession) (idle : manager.Idle)
    (isTarget : target.SameSession world) (event : ObservedEvent)
    {machines : List (Machine (World η))} (registered : machines ⊆ manager.machines)
    (distinct : (machines.map Machine.identifier).Nodup)
    (member : World.sessionMachine η ∈ machines) :
    ∃ newest, (advanceAll event machines manager world).1.SessionNoted
      (advanceAll event machines manager world).2 (target.updateSession event).2 newest := by
  induction machines generalizing manager world with
  | nil => cases member
  | cons machine rest inductionHypothesis =>
      obtain ⟨isMachine, restRegistered⟩ := List.cons_subset.mp registered
      obtain ⟨isNew, restDistinct⟩ := List.nodup_cons.mp distinct
      have asked := manager.questions_read world manager.current machine.identifier
      have machines := asked.frame.1
      have hasAfter := has.advance world event isMachine
      obtain ⟨idleRead, same⟩ := idle.questions has asked
      have isTargetRead := World.sameSession_cumulative.along isTarget same
      rw [Manager.advanceAll]
      rw [advance_eq] at hasAfter ⊢
      rcases List.mem_cons.mp member with rfl | isLater
      · have noted := SessionTo.withDue_session idleRead isTargetRead event
        refine ⟨_, SessionNoted.advanceAll ⟨hasAfter, noted, ?_⟩ event
          (machines.symm ▸ restRegistered) isNew⟩
        exact (get?_current_withDue _ _ _ _).trans (if_pos rfl)
      · have differs : machine.identifier ≠ World.sessionIdentifier :=
          fun same => isNew (same ▸ List.mem_map_of_mem isLater)
        split
        · have idleAfter := idleRead.withDue event (has.leaves_of_ne isMachine differs)
          exact inductionHypothesis hasAfter idleAfter isTargetRead (machines.symm ▸ restRegistered)
            restDistinct isLater
        · exact inductionHypothesis has idle isTarget restRegistered restDistinct isLater

theorem HasSession.snapshot (has : manager.HasSession) (idle : manager.Idle) (world : World η)
    (event : ObservedEvent) :
    ∃ newest, (manager.snapshot world event).2.1.SessionNoted (manager.snapshot world event).2.2
      (world.updateSession event).2 newest :=
  has.advanceAll idle (World.sameSession_cumulative.still world) event
    (List.Subset.refl _) has.tidy.distinct has.mem_session

/-- Machines are asked for entities, that of the session among them, and then the session is where
it was to go. -/
theorem SessionNoted.entities {newest : VersionId}
    (noted : manager.SessionNoted world target newest) (event : ObservedEvent) :
    let given := manager.entities world event manager.current
    given.2.1.HasSession ∧ given.2.1.Idle ∧ target.SameSession given.2.2 := by
  intro given
  have after := noted.questions (manager.questions_entities world event manager.current)
  have concerned : World.sessionMachine η ∈ manager.concerned Subscriptions.entities event :=
    List.mem_filter.mpr ⟨noted.has.mem_session, rfl⟩
  have settled : given.2.1.isSettled newest = true :=
    isSettled_entitiesOf world event List.filter_sublist.subset concerned
      noted.named (noted.has.linked.within _ _ noted.named)
  exact ⟨after.has, after.becomes.reached_of_isSettled settled⟩

end Manager

end Telemetry

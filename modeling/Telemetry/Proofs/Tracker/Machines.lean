import Telemetry.Proofs.State.Asking
import Telemetry.Tracker

/-!
Contract: what the machines of a tracker can do to its world.

Owns:
- the machines that a tracker can have: the built-in ones, and those of the host, which see
  the host's part alone;
- that they publish nothing but starts of sessions when they are asked;
- that a hook touches the host's part alone, and which hooks are run.

Does not own: when a tracker asks its machines.
-/

namespace Telemetry

variable {η : Type}

/-! ### Signals -/

/-- The signal tells of a new session. -/
def Notification.StartsSession (notification : Notification) : Prop :=
  ∃ sessionId index previous, notification = .sessionStarted sessionId index previous

namespace World

/-- Starts of sessions were published, and nothing else. -/
def Announces (before after : World η) : Prop :=
  ∃ starts : List Notification, (∀ start ∈ starts, start.StartsSession) ∧
    after.resources.bus.published = starts ++ before.resources.bus.published

theorem announces_of_bus {before after : World η}
    (same : after.resources.bus = before.resources.bus) : before.Announces after :=
  ⟨[], nofun, by rw [same, List.nil_append]⟩

theorem announces_cumulative : Cumulative (Announces (η := η)) where
  still := fun _ => announces_of_bus rfl
  along := by
    rintro first second third ⟨starts, areStarts, published⟩ ⟨more, areMore, last⟩
    refine ⟨more ++ starts, ?_, by rw [last, published, List.append_assoc]⟩
    intro start member
    exact (List.mem_append.mp member).elim (areMore start) (areStarts start)

theorem updateSession_announces (world : World η) (event : ObservedEvent) :
    world.Announces (world.updateSession event).2 := by
  unfold updateSession
  split
  · exact announces_of_bus rfl
  · next session _ =>
    simp only [Session.update]
    split
    · exact ⟨[_], fun start member => ⟨_, _, _, List.mem_singleton.mp member⟩, rfl⟩
    · exact announces_of_bus rfl

theorem platformEntity_resources (world : World η) :
    world.platformEntity.2.resources = world.resources := by
  unfold platformEntity
  split <;> rfl

end World

/-! ### Machines of a tracker -/

/-- A machine that a tracker can have: a built-in one, or one of the host's sort. -/
inductive World.Origin (hosted : Machine η → Prop) : Machine (World η) → Prop where
  | session : Origin hosted (sessionMachine η)
  | lifecycle : Origin hosted (LifecycleState.machine (World η))
  | deepLink : Origin hosted (DeepLinkState.machine (World η))
  | platform : Origin hosted (platformMachine η)
  | host (machine : Machine η) : hosted machine → Origin hosted (lift machine)

namespace World

variable {hosted : Machine η → Prop} {machine : Machine (World η)}

/-- What asking machines does to the world is what the session and the platform do to it, and
what the host's machines do. -/
theorem Origin.respects {moves : World η → World η → Prop} (cumulative : Cumulative moves)
    (session : ∀ event world, moves world (world.updateSession event).2)
    (platform : ∀ world, moves world world.platformEntity.2)
    (host : ∀ machine, hosted machine → (lift machine).Respects moves)
    (origin : Origin hosted machine) : machine.Respects moves := by
  have still (_ : ObservedEvent) (_ : Option MachineState) := cumulative.still
  cases origin with
  | session => exact ⟨fun event _ => session event, still, still⟩
  | lifecycle => exact ⟨still, still, still⟩
  | deepLink => exact ⟨still, still, still⟩
  | platform => exact ⟨still, fun _ _ => platform, still⟩
  | host machine isHosted => exact host machine isHosted

/-- Asking a machine publishes nothing but starts of sessions. -/
theorem Origin.announces (origin : Origin hosted machine) : machine.Respects Announces := by
  have sameBus (world : World η) : world.Announces world.platformEntity.2 :=
    announces_of_bus (congrArg Resources.bus world.platformEntity_resources)
  have ofHost (machine : Machine η) : (lift machine).Respects Announces :=
    ⟨fun _ _ _ => announces_of_bus rfl, fun _ _ _ => announces_of_bus rfl,
      fun _ _ _ => announces_of_bus rfl⟩
  exact origin.respects announces_cumulative
    (fun event world => world.updateSession_announces event) sameBus fun machine _ => ofHost machine

end World

/-! ### Hooks -/

/-- The calls of hooks: which machine was told of which event. -/
abbrev HookLog (η : Type) := η → List (String × ObservedEvent)

/-- A machine of a host that logs the calls of its hook, and nothing else. -/
structure Machine.LogsHook (machine : Machine η) (log : HookLog η) : Prop where
  transition : ∀ event state host, log (machine.transition event state host).2 = log host
  entities : ∀ event state host, log (machine.entities event state host).2 = log host
  filter : ∀ event state host, log (machine.filter event state host).2 = log host
  afterTrack : ∀ event host,
    log (machine.afterTrack event host) = log host ++ [(machine.identifier, event)]

namespace World

variable {hosted : Machine η → Prop} {machine : Machine (World η)}

/-- No hook was called. -/
def SameLog (log : HookLog η) (before after : World η) : Prop := log after.host = log before.host

theorem sameLog_cumulative (log : HookLog η) : Cumulative (SameLog log) :=
  ⟨fun _ => rfl, fun first second => second.trans first⟩

theorem platformEntity_host (world : World η) : world.platformEntity.2.host = world.host := by
  unfold platformEntity
  split <;> rfl

theorem updateSession_host (world : World η) (event : ObservedEvent) :
    (world.updateSession event).2.host = world.host := by
  unfold updateSession
  split <;> rfl

/-- Asking a machine calls no hook. -/
theorem Origin.sameLog {log : HookLog η} (logs : ∀ machine, hosted machine → machine.LogsHook log)
    (origin : Origin hosted machine) : machine.Respects (SameLog log) := by
  have ofHost (machine : Machine η) (isHosted : hosted machine) :
      (lift machine).Respects (SameLog log) :=
    ⟨fun event state world => (logs machine isHosted).transition event state world.host,
      fun event state world => (logs machine isHosted).entities event state world.host,
      fun event state world => (logs machine isHosted).filter event state world.host⟩
  exact origin.respects (sameLog_cumulative log)
    (fun event world => congrArg log (world.updateSession_host event))
    (fun world => congrArg log world.platformEntity_host) ofHost

/-- A hook changes the host's part alone. -/
theorem Origin.afterTrack_host (origin : Origin hosted machine) (event : ObservedEvent)
    (world : World η) : ∃ host, machine.afterTrack event world = { world with host := host } := by
  cases origin <;> exact ⟨_, rfl⟩

/-- Of the machines that are told of a tracked event each logs the call. The built-in ones
are not told. -/
theorem Origin.afterTrack_log {log : HookLog η}
    (logs : ∀ machine, hosted machine → machine.LogsHook log)
    (origin : Origin hosted machine) {event : ObservedEvent}
    (told : machine.subscriptions.afterTrack.selects event.identifier) (world : World η) :
    log (machine.afterTrack event world).host = log world.host ++ [(machine.identifier, event)] := by
  cases origin with
  | host machine isHosted => exact (logs machine isHosted).afterTrack event world.host
  | session => cases told
  | lifecycle => cases told
  | deepLink => cases told
  | platform => cases told

end World

namespace Manager

variable {hosted : Machine η → Prop} {manager : Manager (World η)}

theorem afterTrack_host (knows : manager.Knows (World.Origin hosted)) (world : World η)
    (event : ObservedEvent) : ∃ host, manager.afterTrack world event = { world with host := host } := by
  have origins : ∀ machine ∈ manager.concerned Subscriptions.afterTrack event,
      World.Origin hosted machine :=
    fun machine member => knows.registered machine (List.mem_filter.mp member).1
  unfold afterTrack
  generalize manager.concerned Subscriptions.afterTrack event = machines at origins
  induction machines generalizing world with
  | nil => exact ⟨world.host, rfl⟩
  | cons machine rest inductionHypothesis =>
      obtain ⟨first, others⟩ := List.forall_mem_cons.mp origins
      obtain ⟨host, isTold⟩ := first.afterTrack_host event world
      rw [List.foldl_cons, isTold]
      exact inductionHypothesis _ others

theorem afterTrack_resources (knows : manager.Knows (World.Origin hosted)) (world : World η)
    (event : ObservedEvent) : (manager.afterTrack world event).resources = world.resources := by
  obtain ⟨host, isTold⟩ := afterTrack_host knows world event
  rw [isTold]

theorem afterTrack_log {log : HookLog η}
    (logs : ∀ machine, hosted machine → machine.LogsHook log)
    (knows : manager.Knows (World.Origin hosted)) (world : World η) (event : ObservedEvent) :
    log (manager.afterTrack world event).host = log world.host ++
      (manager.concerned Subscriptions.afterTrack event).map
        fun machine => (machine.identifier, event) := by
  have told : ∀ machine ∈ manager.concerned Subscriptions.afterTrack event,
      World.Origin hosted machine ∧
        machine.subscriptions.afterTrack.selects event.identifier = true := by
    intro machine member
    obtain ⟨registered, selected⟩ := List.mem_filter.mp member
    exact ⟨knows.registered machine registered, selected⟩
  unfold afterTrack
  generalize manager.concerned Subscriptions.afterTrack event = machines at told
  induction machines generalizing world with
  | nil => exact (List.append_nil _).symm
  | cons machine rest inductionHypothesis =>
      obtain ⟨origin, selected⟩ := told machine (by simp)
      rw [List.foldl_cons, inductionHypothesis _ fun other member =>
        told other (List.mem_cons_of_mem _ member), origin.afterTrack_log logs selected,
        List.map_cons, List.append_assoc, List.singleton_append]

end Manager

end Telemetry

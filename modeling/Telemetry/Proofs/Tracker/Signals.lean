import Telemetry.Proofs.Tracker.Outcome

/-!
Contract: no signal of a first launch but for those of launches.

Owns: that draining, tracking, and whatever else is done with a tracker after its launch,
publishes no signal of a first launch.

Does not own: the signal of a launch.
-/

namespace Telemetry

/-- Signals were published, and none of a first launch. -/
def Bus.AddsNoInstall (before after : Bus) : Prop :=
  ∃ signals, after.published = signals ++ before.published ∧ ∀ instant, .install instant ∉ signals

namespace Bus

variable {before after : Bus}

theorem addsNoInstall_self (bus : Bus) : bus.AddsNoInstall bus :=
  ⟨[], rfl, fun _ => List.not_mem_nil⟩

theorem AddsNoInstall.trans {last : Bus} (left : before.AddsNoInstall after)
    (right : after.AddsNoInstall last) : before.AddsNoInstall last := by
  obtain ⟨signals, published, others⟩ := left
  obtain ⟨more, publishedThen, othersThen⟩ := right
  refine ⟨more ++ signals, by rw [publishedThen, published, List.append_assoc], ?_⟩
  intro instant member
  exact (List.mem_append.mp member).elim (othersThen instant) (others instant)

theorem AddsNoInstall.publish (adds : before.AddsNoInstall after) {notification : Notification}
    (other : ∀ instant, notification ≠ .install instant) :
    before.AddsNoInstall (after.publish notification) := by
  obtain ⟨signals, published, others⟩ := adds
  refine ⟨notification :: signals, congrArg (notification :: ·) published, ?_⟩
  intro instant member
  rcases List.mem_cons.mp member with same | old
  · exact other instant same.symm
  · exact others instant old

end Bus

/-! ### Draining -/

namespace Emitter

theorem pause_addsNoInstall (emitter : Emitter) (reason : String) :
    emitter.bus.AddsNoInstall (emitter.pause reason).bus := by
  unfold pause
  split
  · exact emitter.bus.addsNoInstall_self
  · exact emitter.bus.addsNoInstall_self.publish nofun

theorem settle_addsNoInstall (emitter : Emitter) (sent : SentPage) :
    emitter.bus.AddsNoInstall (emitter.settle sent).2.bus := by
  unfold settle removeSettled
  rcases emitter.removeRows_cases (settledIds emitter.config.retry sent.results) with
    ⟨cause, failed⟩ | ⟨queue, _, removes⟩
  · simp only [failed]
    exact (pause_addsNoInstall _ _).publish nofun
  · simp only [removes]
    exact emitter.bus.addsNoInstall_self.publish nofun

theorem cycle_addsNoInstall (emitter : Emitter) (transport : Transport) (now : Int)
    (arrivals : Arrivals) :
    emitter.bus.AddsNoInstall (emitter.cycle transport now arrivals).2.bus := by
  have reading : (emitter.readPage now).2.bus = emitter.bus := by rw [readPage_frame]
  unfold cycle
  generalize emitter.readPage now = read at reading
  obtain ⟨_ | _ | ⟨event, rest⟩, after⟩ := read
  · rw [← reading]
    exact Bus.addsNoInstall_self _
  · rw [← reading]
    exact Bus.addsNoInstall_self _
  · have settles := settle_addsNoInstall
      (((after.accept arrivals.afterReading).sendPage transport now (event :: rest)).2.accept
        arrivals.afterSending)
      ((after.accept arrivals.afterReading).sendPage transport now (event :: rest)).1
    rw [← reading]
    exact settles

theorem drainWithin_addsNoInstall {transport : Transport} {clock : Time.Clock} {cycles : Nat}
    {emitter : Emitter} {result : CycleReport × Emitter}
    (ends : drainWithin transport clock cycles emitter = some result) :
    emitter.bus.AddsNoInstall result.2.bus := by
  induction cycles generalizing emitter result clock with
  | zero =>
      rw [drainWithin] at ends
      split at ends
      · rw [← Option.some.inj ends]
        exact emitter.bus.addsNoInstall_self
      · cases ends
  | succ cycles inductionHypothesis =>
      have cycled := emitter.cycle_addsNoInstall transport clock.now {}
      rw [drainWithin] at ends
      generalize emitter.cycle transport clock.now {} = answered at ends cycled
      obtain ⟨answer, next⟩ := answered
      split at ends
      · rw [← Option.some.inj ends]
        exact emitter.bus.addsNoInstall_self
      cases answer with
      | none =>
          rw [← Option.some.inj ends]
          exact cycled
      | some report =>
          simp only at ends
          split at ends
          · obtain ⟨rest, restEnds, same⟩ := Option.map_eq_some_iff.mp ends
            have rested : next.bus.AddsNoInstall rest.2.bus := inductionHypothesis restEnds
            rw [← same]
            exact cycled.trans rested
          · rw [← Option.some.inj ends]
            exact cycled

theorem drain_addsNoInstall (emitter : Emitter) (transport : Transport) (clock : Time.Clock) :
    emitter.bus.AddsNoInstall (emitter.drain transport clock).2.bus := by
  unfold drain
  cases ends : drainWithin transport clock endlessCycles emitter with
  | none => exact emitter.bus.addsNoInstall_self
  | some result => exact drainWithin_addsNoInstall ends

end Emitter

/-! ### Trackers -/

namespace Tracker

variable {η : Type} {hosted : Machine η → Prop} {tracker : Tracker η}

/-- Starts of sessions and a signal of another kind tell of no first launch. -/
theorem Reports.addsNoInstall {notification : Notification} {before after : Tracker η}
    (reports : Reports notification before after)
    (other : ∀ instant, notification ≠ .install instant) :
    before.world.resources.bus.AddsNoInstall after.world.resources.bus := by
  obtain ⟨starts, areStarts, published⟩ := reports
  refine ⟨notification :: starts, published, fun instant member => ?_⟩
  rcases List.mem_cons.mp member with same | isStart
  · exact other instant same.symm
  · obtain ⟨_, _, _, isSession⟩ := areStarts _ isStart
    cases isSession

theorem track_addsNoInstall (knows : tracker.manager.Knows (World.Origin hosted))
    (event : Event) (now : Int) :
    tracker.world.resources.bus.AddsNoInstall
      (tracker.track event now).2.world.resources.bus := by
  have outcome := track_outcome knows event now
  cases on : tracker.tracking with
  | false =>
      rw [outcome.paused on]
      exact Bus.addsNoInstall_self _
  | true =>
      by_cases accepted : some false ∉ tracker.votes event now
      · by_cases stores : tracker.Stores event now
        · have tracked := (outcome.answered _).mpr ⟨rfl, on, accepted, stores⟩
          exact (outcome.tracked (Option.isSome_of_eq_some tracked)).1.addsNoInstall nofun
        · obtain ⟨cause, reports⟩ := outcome.failed on accepted stores
          exact reports.addsNoInstall nofun
      · exact (outcome.rejected on (not_not.mp accepted)).addsNoInstall nofun

/-- Whatever is done with a tracker after its launch, it reports no first launch. -/
theorem perform_addsNoInstall (knows : tracker.manager.Knows (World.Origin hosted))
    (move : TrackerMove η) :
    tracker.world.resources.bus.AddsNoInstall
      (tracker.perform move).2.world.resources.bus := by
  rcases tracker.perform_cases move with
    ⟨event, now, isTracked⟩ | ⟨transport, clock, rfl⟩ | rfl | ⟨_, resources, _⟩
  · rw [isTracked]
    exact track_addsNoInstall knows event now
  · exact tracker.emitter.drain_addsNoInstall transport clock
  · exact tracker.emitter.pause_addsNoInstall Emitter.callerReason
  · rw [resources]
    exact Bus.addsNoInstall_self _

end Tracker

end Telemetry

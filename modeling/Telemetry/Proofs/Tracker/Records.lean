import Telemetry.Proofs.Session.Launch
import Telemetry.Proofs.Settings.Agreement
import Telemetry.Proofs.Tracker.Contents

/-!
Contract: which records of a settings store a tracker changes.

Owns:
- calls on a store that change records of one name alone;
- that loading a session, and whatever is done with a tracker after its launch, changes session
  records alone.

Does not own: what a launch does with the record of a first launch.
-/

namespace Telemetry

/-! ### Calls that change records of one name -/

namespace SettingsBackend

/-- The records of all other names, in any scope, are as before. -/
def ChangesOnly (before : SettingsBackend) (name : String) (after : SettingsBackend) : Prop :=
  ∀ key : SettingsKey, key.name ≠ name → after.recordAt? key = before.recordAt? key

variable {before after : SettingsBackend} {key : SettingsKey}

theorem changesOnly_self (backend : SettingsBackend) (name : String) :
    backend.ChangesOnly name backend :=
  fun _ _ => rfl

theorem ChangesOnly.trans {name : String} {last : SettingsBackend}
    (left : before.ChangesOnly name after) (right : after.ChangesOnly name last) :
    before.ChangesOnly name last :=
  fun key other => (right key other).trans (left key other)

theorem set_changesOnly {value : Json} (written : before.set key value = .ok after) :
    before.ChangesOnly key.name after := by
  intro other differs
  rw [set_replaces written other, if_neg]
  rintro rfl
  exact differs rfl

/-- A move changes the record of a scope and the legacy one of the same name. -/
theorem migrate_changesOnly {transform : Json → Option Json} {moved : Bool}
    (answered : before.migrate key transform = .ok (moved, after)) :
    before.ChangesOnly key.name after := by
  cases moved with
  | false =>
      rw [eq_of_migrate_false answered]
      exact changesOnly_self before key.name
  | true =>
      obtain ⟨_, _, records⟩ := movedRecord_of_migrate answered
      intro other differs
      refine records.others other ?_ ?_
      · rintro rfl
        exact differs rfl
      · rintro rfl
        exact differs rfl

end SettingsBackend

namespace SettingsStore

variable {store : SettingsStore} {key : SettingsKey}

theorem get_backend (store : SettingsStore) (key : SettingsKey) :
    (store.get key).2.backend = store.backend := by
  unfold get
  split <;> rfl

/-- A read that finds no record is of a key without one. -/
theorem recordAt?_of_get_none (found : (store.get key).1 = .ok none) :
    store.backend.recordAt? key = none := by
  unfold get at found
  split at found
  · cases found
  · exact (SettingsBackend.get_eq_none_iff (SettingsBackend.works_of_get found)).mp found

/-- A write fails and leaves the backend, or succeeds on it. -/
theorem set_cases (store : SettingsStore) (key : SettingsKey) (value : Json) :
    (∃ cause, (store.set key value).1 = .error cause) ∧
        (store.set key value).2.backend = store.backend ∨
      (store.set key value).1 = .ok () ∧
        store.backend.set key value = .ok (store.set key value).2.backend := by
  unfold set
  split
  · exact .inl ⟨⟨_, rfl⟩, rfl⟩
  · cases written : store.backend.set key value with
    | error cause => exact .inl ⟨⟨cause, rfl⟩, rfl⟩
    | ok backend => exact .inr ⟨rfl, rfl⟩

theorem set_changesOnly (store : SettingsStore) (key : SettingsKey) (value : Json) :
    store.backend.ChangesOnly key.name (store.set key value).2.backend := by
  rcases store.set_cases key value with ⟨_, same⟩ | ⟨_, written⟩
  · rw [same]
    exact SettingsBackend.changesOnly_self _ _
  · exact SettingsBackend.set_changesOnly written

theorem set_retains (store : SettingsStore) (key : SettingsKey) (value : Json) :
    store.backend.Retains (store.set key value).2.backend := by
  rcases store.set_cases key value with ⟨_, same⟩ | ⟨_, written⟩
  · rw [same]
    exact SettingsBackend.retains_self _
  · exact SettingsBackend.set_retains written

/-- After a call to move a record the backend is as it was, or the record was moved. -/
theorem migrate_backend (store : SettingsStore) (key : SettingsKey)
    (transform : Json → Option Json) :
    (store.migrate key transform).2.backend = store.backend ∨
      store.backend.migrate key transform =
        .ok (true, (store.migrate key transform).2.backend) := by
  rcases store.migrate_outcome key transform with
    ⟨_, same⟩ | ⟨_, _, _, same⟩ | ⟨_, _, same⟩ | ⟨_, after, moved, same⟩
  · exact .inl (by rw [same]; rfl)
  · exact .inl (by rw [same]; rfl)
  · exact .inl (by rw [same]; rfl)
  · exact .inr (by rw [same, moved])

theorem migrate_changesOnly (store : SettingsStore) (key : SettingsKey)
    (transform : Json → Option Json) :
    store.backend.ChangesOnly key.name (store.migrate key transform).2.backend := by
  rcases store.migrate_backend key transform with same | moved
  · rw [same]
    exact SettingsBackend.changesOnly_self _ _
  · exact SettingsBackend.migrate_changesOnly moved

theorem migrate_retains (store : SettingsStore) (key : SettingsKey)
    (transform : Json → Option Json) :
    store.backend.Retains (store.migrate key transform).2.backend := by
  rcases store.migrate_backend key transform with same | moved
  · rw [same]
    exact SettingsBackend.retains_self _
  · exact SettingsBackend.migrate_retains moved

end SettingsStore

/-! ### Sessions -/

/-- Session records were changed, and no other. -/
def Resources.ChangesSessions (before after : Resources) : Prop :=
  before.settings.backend.ChangesOnly SessionRecord.settingsName after.settings.backend

theorem Resources.changesSessions_of_settings {before after : Resources}
    (same : after.settings = before.settings) : before.ChangesSessions after := by
  rw [ChangesSessions, same]
  exact SettingsBackend.changesOnly_self _ _

theorem Resources.ChangesSessions.trans {first second third : Resources}
    (left : first.ChangesSessions second) (right : second.ChangesSessions third) :
    first.ChangesSessions third :=
  SettingsBackend.ChangesOnly.trans left right

namespace Session

theorem persist_changesSessions (session : Session) (resources : Resources) :
    resources.ChangesSessions (session.persist resources) :=
  resources.settings.set_changesOnly (SessionRecord.settingsKey session.scope) _

theorem update_changesSessions (session : Session) (resources : Resources) (event : Uuid)
    (instant : Int) (signal : Option LifecycleSignal) :
    resources.ChangesSessions (session.update resources event instant signal).2 := by
  have updated := (session.update_settings resources event instant signal).1
  rw [Resources.ChangesSessions, updated]
  exact persist_changesSessions _ resources.draw.2

theorem storedRecord?_snd (scope : String) (resources : Resources) :
    (storedRecord? scope resources).2 =
      (resources.read (SessionRecord.settingsKey scope)).2 := by
  unfold storedRecord?
  split <;> next isRead => rw [isRead]

theorem storedRecord?_frame (scope : String) (resources : Resources) :
    resources.ChangesSessions (storedRecord? scope resources).2 ∧
      (storedRecord? scope resources).2.bus = resources.bus := by
  rw [storedRecord?_snd]
  refine ⟨?_, rfl⟩
  rw [Resources.ChangesSessions, Resources.read, SettingsStore.get_backend]
  exact SettingsBackend.changesOnly_self _ _

/-- Loading changes session records alone, and publishes nothing. -/
theorem load_frame (scope : String) (config : SessionConfig) (resources : Resources) :
    resources.ChangesSessions (load scope config resources).2 ∧
      (load scope config resources).2.bus = resources.bus := by
  let opening : Resources :=
    { resources with settings := migrated scope resources, uuids := resources.uuids.skip 3 }
  have moved : resources.ChangesSessions opening :=
    resources.settings.migrate_changesOnly (SessionRecord.settingsKey scope) _
  obtain ⟨read, bus⟩ := storedRecord?_frame scope opening
  have opened : resources.ChangesSessions (storedRecord? scope opening).2 := moved.trans read
  rw [load_eq]
  generalize storedRecord? scope opening = stored at opened bus
  obtain ⟨_ | record, after⟩ := stored
  · exact ⟨opened.trans (persist_changesSessions _ after), bus⟩
  · exact ⟨opened, bus⟩

end Session

/-! ### Trackers -/

namespace World

variable {η : Type} {hosted : Machine η → Prop} {machine : Machine (World η)}

/-- Session records were changed, and no other. -/
def ChangesSessions (before after : World η) : Prop :=
  before.resources.ChangesSessions after.resources

theorem changesSessions_of_resources {before after : World η}
    (same : after.resources = before.resources) : before.ChangesSessions after :=
  Resources.changesSessions_of_settings (congrArg Resources.settings same)

theorem changesSessions_cumulative : Cumulative (ChangesSessions (η := η)) where
  still := fun _ => changesSessions_of_resources rfl
  along := fun left right => Resources.ChangesSessions.trans left right

theorem updateSession_changesSessions (world : World η) (event : ObservedEvent) :
    world.ChangesSessions (world.updateSession event).2 := by
  unfold updateSession
  split
  · exact changesSessions_of_resources rfl
  · next session _ => exact session.update_changesSessions world.resources event.id _ _

/-- Asking a machine changes session records alone. -/
theorem Origin.changesSessions (origin : Origin hosted machine) :
    machine.Respects ChangesSessions := by
  have samePlatform (world : World η) : world.ChangesSessions world.platformEntity.2 :=
    changesSessions_of_resources world.platformEntity_resources
  have ofHost (machine : Machine η) : (lift machine).Respects ChangesSessions :=
    ⟨fun _ _ _ => changesSessions_of_resources rfl, fun _ _ _ => changesSessions_of_resources rfl,
      fun _ _ _ => changesSessions_of_resources rfl⟩
  exact origin.respects changesSessions_cumulative
    (fun event world => world.updateSession_changesSessions event) samePlatform
    fun machine _ => ofHost machine

end World

namespace Tracker

variable {η : Type} {hosted : Machine η → Prop} {tracker : Tracker η}

theorem voted_changesSessions (knows : tracker.manager.Knows (World.Origin hosted))
    (event : Event) (now : Int) :
    Asks hosted World.ChangesSessions tracker (tracker.voted event now) :=
  voted_asks World.changesSessions_cumulative (fun _ origin => origin.changesSessions)
    (fun _ => Resources.changesSessions_of_settings rfl) knows event now

theorem publish_settings (tracker : Tracker η) (notification : Notification) :
    (tracker.publish notification).world.resources.settings = tracker.world.resources.settings :=
  rfl

theorem enqueue_settings (knows : tracker.manager.Knows (World.Origin hosted))
    (enriched : Enriched) (now : Int) :
    (tracker.enqueue enriched now).2.world.resources.settings =
      tracker.world.resources.settings := by
  unfold enqueue
  split
  · rfl
  · change (tracker.manager.afterTrack tracker.world enriched.event).resources.settings = _
    rw [Manager.afterTrack_resources knows]

/-- Tracking an event changes session records alone. -/
theorem track_changesSessions (knows : tracker.manager.Knows (World.Origin hosted))
    (event : Event) (now : Int) :
    tracker.world.ChangesSessions (tracker.track event now).2.world := by
  cases on : tracker.tracking with
  | false =>
      rw [track, on]
      exact World.changesSessions_of_resources rfl
  | true =>
      have voted := (voted_changesSessions knows event now).asked
      have queued := enqueue_settings voted.knows (tracker.enriched event now).1 now
      have rejected := publish_settings (tracker.voted event now)
        (.eventFiltered (tracker.idOf event))
      rw [track_of_tracking on]
      split
      · generalize (tracker.voted event now).enqueue _ now = result at queued
        exact World.changesSessions_cumulative.along voted.moved
          (Resources.changesSessions_of_settings queued)
      · exact World.changesSessions_cumulative.along voted.moved
          (Resources.changesSessions_of_settings rejected)

/-- Whatever is done with a tracker changes session records alone. -/
theorem perform_changesSessions (knows : tracker.manager.Knows (World.Origin hosted))
    (move : TrackerMove η) :
    tracker.world.ChangesSessions (tracker.perform move).2.world := by
  rcases tracker.perform_cases move with
    ⟨event, now, isTracked⟩ | ⟨transport, now, rfl⟩ | rfl | ⟨_, resources, _⟩
  · rw [isTracked]
    exact track_changesSessions knows event now
  · exact Resources.changesSessions_of_settings rfl
  · exact Resources.changesSessions_of_settings rfl
  · exact World.changesSessions_of_resources resources

end Tracker

end Telemetry

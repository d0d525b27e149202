import Telemetry.Proofs.Session.Partition
import Telemetry.Proofs.Settings.Likeness
import Telemetry.Proofs.Tracker.Launches

/-!
Contract: what a tracker leaves of records that are not of its scope.

Owns:
- when a call takes a legacy record away, and that writes and moves spare all other records;
- that whatever is done with a tracker spares all records but that of its session;
- the same for launches: they spare the records of other scopes but for the legacy records that
  they take.

Does not own: trackers that share a store.
-/

namespace Telemetry

variable {η : Type} {shared : SettingsKey → Prop}

/-! ### Calls on a store -/

namespace SettingsStore

variable {store : SettingsStore} {key : SettingsKey} {transform : Json → Option Json}

/-- A call to move a legacy record to the key does so: it is not refused, the key has no record,
and the legacy layout has one that can be read and transformed. -/
structure Takes (store : SettingsStore) (key : SettingsKey) (transform : Json → Option Json) :
    Prop where
  accepted : store.refuses .migrate store.calls = false
  movable : ∃ moved, store.backend.Movable key transform moved

theorem takes_iff : store.Takes key transform ↔ (store.migrate key transform).1 = .ok true := by
  rw [(store.movesWhole key transform).moves]
  exact ⟨fun takes => ⟨takes.accepted, takes.movable⟩, fun ⟨accepted, movable⟩ =>
    ⟨accepted, movable⟩⟩

/-- A legacy record that is taken is gone. -/
theorem migrate_of_takes (takes : store.Takes key transform) :
    (store.migrate key transform).2.backend.recordAt? (.legacy key.name) = none := by
  obtain ⟨_, _, records⟩ := (store.movesWhole key transform).records (takes_iff.mp takes)
  exact records.noLegacy

theorem set_alikeOn (store : SettingsStore) (value : Json) (apart : ¬ shared key) :
    store.backend.AlikeOn shared (store.set key value).2.backend := by
  rcases store.set_cases key value with ⟨_, same⟩ | ⟨_, written⟩
  · rw [same]
    exact .self _
  · exact SettingsBackend.set_alikeOn written apart

/-- A move spares all records but those that it writes and takes. -/
theorem migrate_alikeOn (apart : ¬ shared key)
    (spares : shared (.legacy key.name) → ¬ store.Takes key transform) :
    store.backend.AlikeOn shared (store.migrate key transform).2.backend := by
  by_cases takes : store.Takes key transform
  · have notLegacy : ¬ shared (.legacy key.name) := fun isShared => spares isShared takes
    rcases store.migrate_outcome key transform with
      ⟨_, same⟩ | ⟨_, _, _, same⟩ | ⟨_, _, same⟩ | ⟨_, after, moved, same⟩
    · rw [same]
      exact .self _
    · rw [same]
      exact .self _
    · rw [same]
      exact .self _
    · rcases store.backend.migrate_cases key transform with
        ⟨cause, failed⟩ | unmoved | ⟨last, _, _, written, answered, moves⟩
      · cases failed.symm.trans moved
      · cases unmoved.symm.trans moved
      · obtain rfl : last = after :=
          (Prod.mk.inj (Except.ok.inj (answered.symm.trans moved))).2
        rw [same]
        exact (SettingsBackend.set_alikeOn moves.writes apart).trans
          (SettingsBackend.remove_alikeOn (SettingsBackend.works_of_set moves.writes).2
            moves.removes notLegacy)
  · rw [(store.movesWhole key transform).unchanged fun moved => takes (takes_iff.mpr moved)]
    exact .self _

end SettingsStore

/-! ### What is done with a tracker -/

namespace World

variable {hosted : Machine η → Prop} {machine : Machine (World η)}

/-- Where the session of the world is recorded. -/
def sessionKey? (world : World η) : Option SettingsKey :=
  world.session.map fun session => SessionRecord.settingsKey session.scope

/-- The session keeps its scope, and shared records are spared if the session's is not one. -/
structure Spares (shared : SettingsKey → Prop) (before after : World η) : Prop where
  sessionKey : after.sessionKey? = before.sessionKey?
  records : (∀ key, before.sessionKey? = some key → ¬ shared key) →
    before.resources.settings.backend.AlikeOn shared after.resources.settings.backend

theorem spares_of_backend {before after : World η}
    (session : after.sessionKey? = before.sessionKey?)
    (backend : after.resources.settings.backend = before.resources.settings.backend) :
    before.Spares shared after := by
  refine ⟨session, fun _ => ?_⟩
  rw [backend]
  exact .self _

theorem spares_cumulative : Cumulative (Spares (η := η) shared) where
  still := fun _ => spares_of_backend rfl rfl
  along := by
    intro first second third left right
    refine ⟨right.sessionKey.trans left.sessionKey, fun apart => ?_⟩
    exact (left.records apart).trans (right.records (left.sessionKey ▸ apart))

theorem updateSession_spares (world : World η) (event : ObservedEvent) :
    world.Spares shared (world.updateSession event).2 := by
  unfold updateSession
  split
  · exact spares_cumulative.still world
  · next session isSession =>
    obtain ⟨settings, -⟩ :=
      session.update_settings world.resources event.id event.timestamp
        (LifecycleSignal.ofSchema? event.schema)
    have scope := congrArg Session.scope (session.update_session world.resources event.id
      event.timestamp (LifecycleSignal.ofSchema? event.schema))
    constructor
    case sessionKey =>
      simp only [sessionKey?, isSession, Option.map_some, scope]
      rfl
    case records =>
      intro apart
      simp only [settings]
      refine world.resources.draw.2.settings.set_alikeOn _ (apart _ ?_)
      rw [sessionKey?, isSession]
      rfl

theorem Origin.spares (origin : Origin hosted machine) : machine.Respects (Spares shared) := by
  have samePlatform (world : World η) : world.Spares shared world.platformEntity.2 := by
    unfold platformEntity
    split <;> exact spares_of_backend rfl rfl
  have ofHost (machine : Machine η) : (lift machine).Respects (Spares shared) :=
    ⟨fun _ _ _ => spares_of_backend rfl rfl, fun _ _ _ => spares_of_backend rfl rfl,
      fun _ _ _ => spares_of_backend rfl rfl⟩
  exact origin.respects spares_cumulative (fun event world => world.updateSession_spares event)
    samePlatform fun machine _ => ofHost machine

end World

namespace Tracker

variable {hosted : Machine η → Prop} {tracker : Tracker η}

theorem publish_spares (tracker : Tracker η) (notification : Notification) :
    tracker.world.Spares shared (tracker.publish notification).world :=
  World.spares_of_backend rfl rfl

section Knows

variable (knows : tracker.manager.Knows (World.Origin hosted))

include knows

theorem enqueue_spares (enriched : Enriched) (now : Int) :
    tracker.world.Spares shared (tracker.enqueue enriched now).2.world := by
  unfold enqueue
  split
  · exact World.spares_of_backend rfl rfl
  · obtain ⟨host, isTold⟩ := Manager.afterTrack_host knows tracker.world enriched.event
    simp only [publish, isTold]
    exact World.spares_of_backend rfl rfl

theorem track_spares (event : Event) (now : Int) :
    tracker.world.Spares shared (tracker.track event now).2.world := by
  cases on : tracker.tracking with
  | false =>
      rw [track, on]
      exact World.spares_cumulative.still _
  | true =>
      have voted : Asks hosted (World.Spares shared) tracker (tracker.voted event now) :=
        voted_asks World.spares_cumulative (fun _ origin => origin.spares)
          (fun _ => World.spares_of_backend rfl rfl) knows event now
      have queued : World.Spares shared _ _ :=
        enqueue_spares voted.asked.knows (tracker.enriched event now).1 now
      have rejected : (tracker.voted event now).world.Spares shared
          ((tracker.voted event now).publish (.eventFiltered (tracker.idOf event))).world :=
        publish_spares _ _
      rw [track_of_tracking on]
      split
      · generalize (tracker.voted event now).enqueue _ now = result at queued
        exact World.spares_cumulative.along voted.asked.moved queued
      · exact World.spares_cumulative.along voted.asked.moved rejected

theorem reportInstall_spares (now : Int) :
    tracker.world.Spares shared (tracker.reportInstall now).world := by
  have tracked : tracker.world.Spares shared (tracker.track (installEvent now) now).2.world :=
    track_spares knows (installEvent now) now
  cases answer : (tracker.track (installEvent now) now).1 with
  | none =>
      rw [reportInstall_of_none answer]
      exact tracked
  | some id =>
      rw [reportInstall_of_some answer]
      exact World.spares_cumulative.along tracked (publish_spares _ _)

end Knows

theorem mapSession_sessionKey? (tracker : Tracker η) {change : Session → Session}
    (keeps : ∀ session, (change session).scope = session.scope) :
    (tracker.mapSession change).world.sessionKey? = tracker.world.sessionKey? := by
  simp only [mapSession, World.sessionKey?, Option.map_map]
  exact congrArg (Option.map · tracker.world.session)
    (funext fun session => congrArg SessionRecord.settingsKey (keeps session))

/-- Whatever is done with a tracker, of all records only that of its session is written. -/
theorem perform_spares (knows : tracker.manager.Knows (World.Origin hosted))
    (move : TrackerMove η) :
    tracker.world.Spares shared (tracker.perform move).2.world := by
  cases move with
  | track event now => exact track_spares knows event now
  | trackMessage message now =>
      rw [perform, trackMessage]
      split
      · exact track_spares knows _ now
      · exact World.spares_cumulative.still _
  | startNewSession =>
      exact World.spares_of_backend (tracker.mapSession_sessionKey? fun _ => rfl) rfl
  | setAnonymise on =>
      exact World.spares_of_backend (tracker.mapSession_sessionKey? fun _ => rfl) rfl
  | setTracking on => exact World.spares_of_backend rfl rfl
  | setSubject subject => exact World.spares_of_backend rfl rfl
  | setGdpr gdpr => exact World.spares_of_backend rfl rfl
  | addMachine machine => exact World.spares_of_backend rfl rfl
  | removeMachine identifier => exact World.spares_of_backend rfl rfl
  | elsewhere source elapsed change => exact World.spares_of_backend rfl rfl
  | drain transport now => exact World.spares_of_backend rfl rfl
  | pauseEmitter => exact World.spares_of_backend rfl rfl
  | resumeEmitter => exact World.spares_of_backend rfl rfl
  | shutdown => exact World.spares_of_backend rfl rfl

end Tracker

/-! ### Launches -/

namespace Session

variable {scope : String} {resources : Resources}

/-- What a legacy record of a session becomes when it is moved. -/
def takesOver (uuids : UuidSource) (value : Json) : Option Json :=
  (legacyRecord? uuids value).map SessionRecord.toJson

theorem load_scope (scope : String) (config : SessionConfig) (resources : Resources) :
    (load scope config resources).1.scope = scope := by
  unfold load
  simp only
  split <;> rfl

theorem storedRecord?_backend (scope : String) (resources : Resources) :
    (storedRecord? scope resources).2.settings.backend = resources.settings.backend := by
  rw [storedRecord?_snd]
  exact resources.settings.get_backend _

/-- Once the move of a legacy record was tried, a load writes the record of its scope alone. -/
theorem load_alikeOn_migrated (config : SessionConfig)
    (apart : ¬ shared (SessionRecord.settingsKey scope)) :
    (migrated scope resources).backend.AlikeOn shared
      (load scope config resources).2.settings.backend := by
  let opening : Resources :=
    { resources with settings := migrated scope resources, uuids := resources.uuids.skip 3 }
  have read : (storedRecord? scope opening).2.settings.backend =
      (migrated scope resources).backend := storedRecord?_backend scope opening
  rw [load_eq, ← read]
  generalize storedRecord? scope opening = stored
  obtain ⟨_ | record, after⟩ := stored
  · exact after.settings.set_alikeOn _ apart
  · exact .self _

end Session

namespace Tracker

variable {hosted : Machine η → Prop} {tracker : Tracker η}

/-- Once the move of a legacy record was tried, a launch writes the records of its scope alone. -/
theorem trackInstall_spares (knows : tracker.manager.Knows (World.Origin hosted))
    (apart : ¬ shared tracker.installKey) (now : Int) :
    (tracker.withResources tracker.migrated).world.Spares shared
      (tracker.trackInstall now).world := by
  have looked : (tracker.withResources tracker.migrated).world.Spares shared
      (tracker.withResources tracker.lookedUp.2).world :=
    World.spares_of_backend rfl tracker.lookedUp_backend
  have recorded : (tracker.withResources tracker.migrated).world.Spares shared
      (tracker.recorded now).world := by
    refine World.spares_cumulative.along looked ⟨rfl, fun _ => ?_⟩
    exact tracker.lookedUp.2.settings.set_alikeOn (installRecord now) apart
  have knowsThen : (tracker.recorded now).manager.Knows (World.Origin hosted) := knows
  rcases tracker.trackInstall_cases now with ⟨_, isDone⟩ | ⟨_, isDone⟩ | ⟨_, _, isDone⟩
  · rw [isDone]
    exact looked
  · rw [isDone]
    exact recorded
  · rw [isDone]
    exact World.spares_cumulative.along recorded (reportInstall_spares knowsThen now)

end Tracker

namespace LaunchPlan

variable {plan : LaunchPlan η} {store : SettingsStore}

/-- The launch moves the legacy record of a name to its scope. -/
inductive Takes (plan : LaunchPlan η) (store : SettingsStore) : String → Prop where
  | session : plan.settings.sessionContext = true →
      store.Takes (SessionRecord.settingsKey plan.settings.scope)
        (Session.takesOver plan.uuids) →
      Takes plan store SessionRecord.settingsName
  | install : plan.inRuntime = true → plan.settings.install = true →
      (plan.started store).world.resources.settings.Takes (plan.started store).installKey some →
      Takes plan store Tracker.installName

/-- The settings store after a launch, also after one that fails. -/
def leaves (plan : LaunchPlan η) (store : SettingsStore) : SettingsStore :=
  match plan.launch store with
  | .ok tracker => tracker.world.resources.settings
  | .error _ => (plan.prepared store).world.resources.settings

theorem leaves_eq (plan : LaunchPlan η) (store : SettingsStore) :
    plan.leaves store =
      if plan.inRuntime = true ∧ plan.settings.install = true then
        ((plan.started store).trackInstall plan.now).world.resources.settings
      else
        (plan.started store).world.resources.settings := by
  rw [leaves, launch_eq]
  cases plan.inRuntime <;> cases plan.settings.install <;> rfl

/-- The session of a launched tracker is of the tracker's scope. -/
theorem started_sessionKey (plan : LaunchPlan η) (store : SettingsStore) :
    ∀ key, (plan.started store).world.sessionKey? = some key →
      key = SessionRecord.settingsKey plan.settings.scope := by
  have session : (plan.started store).world.session =
      (Tracker.loadSession plan.settings plan.sessionConfig (plan.parts store).resources).1 := rfl
  intro key isKey
  rw [World.sessionKey?, session, Tracker.loadSession] at isKey
  split at isKey
  · rw [← Option.some.inj isKey]
    exact congrArg SessionRecord.settingsKey (Session.load_scope _ _ _)
  · cases isKey

section Apart

variable (apart : ∀ key, shared key → key.scope ≠ plan.settings.scope)

include apart

theorem started_alikeOn
    (spares : shared (.legacy SessionRecord.settingsName) →
      ¬ plan.Takes store SessionRecord.settingsName) :
    store.backend.AlikeOn shared (plan.started store).world.resources.settings.backend := by
  have loaded : (plan.started store).world.resources =
      (Tracker.loadSession plan.settings plan.sessionConfig (plan.parts store).resources).2 := rfl
  have notOwn : ¬ shared (SessionRecord.settingsKey plan.settings.scope) :=
    fun isShared => apart _ isShared rfl
  rw [loaded, Tracker.loadSession]
  split
  · next sessions =>
    refine .trans ?_ (Session.load_alikeOn_migrated plan.sessionConfig notOwn)
    exact SettingsStore.migrate_alikeOn notOwn fun isShared takes =>
      spares isShared (.session sessions takes)
  · exact .self _

theorem leaves_alikeOn_started
    (spares : shared (.legacy Tracker.installName) → ¬ plan.Takes store Tracker.installName) :
    (plan.started store).world.resources.settings.backend.AlikeOn shared
      (plan.leaves store).backend := by
  have notOwn : ¬ shared (plan.started store).installKey := fun isShared => apart _ isShared rfl
  rw [leaves_eq]
  split
  · next asked =>
    have moved := SettingsStore.migrate_alikeOn notOwn fun isShared takes =>
      spares isShared (.install asked.1 asked.2 takes)
    have spared : World.Spares shared _ _ :=
      Tracker.trackInstall_spares (plan.started_quiet store) notOwn plan.now
    refine moved.trans (spared.records fun key isKey isShared => apart key isShared ?_)
    rw [started_sessionKey plan store key isKey]
    rfl
  · exact .self _

/-- A launch spares the records of other scopes, but for the legacy records that it takes. -/
theorem leaves_alikeOn (spares : ∀ name, shared (.legacy name) → ¬ plan.Takes store name) :
    store.backend.AlikeOn shared (plan.leaves store).backend :=
  (started_alikeOn apart (spares _)).trans (leaves_alikeOn_started apart (spares _))

end Apart

/-- A legacy record of a session that is taken is gone when the session is loaded. -/
theorem started_of_takes (named : plan.settings.scope ≠ legacyScope)
    (sessions : plan.settings.sessionContext = true)
    (takes : store.Takes (SessionRecord.settingsKey plan.settings.scope)
      (Session.takesOver plan.uuids)) :
    (plan.started store).world.resources.settings.backend.recordAt?
      (.legacy SessionRecord.settingsName) = none := by
  let resources := (plan.parts store).resources
  have moved : (Session.migrated plan.settings.scope resources).backend.recordAt?
      (.legacy SessionRecord.settingsName) = none := SettingsStore.migrate_of_takes takes
  have loads : SettingsBackend.AlikeOn (· = .legacy SessionRecord.settingsName)
      (Session.migrated plan.settings.scope resources).backend _ :=
    Session.load_alikeOn_migrated plan.sessionConfig (settingsKey_ne_legacy named)
  have loaded : (plan.started store).world.resources =
      (Tracker.loadSession plan.settings plan.sessionConfig resources).2 := rfl
  rw [Tracker.loadSession, if_pos sessions] at loaded
  rw [loaded]
  exact (loads.records _ rfl).trans moved

/-- A legacy record that a launch takes is gone after it. -/
theorem leaves_of_takes {name : String} (named : plan.settings.scope ≠ legacyScope)
    (takes : plan.Takes store name) :
    (plan.leaves store).backend.recordAt? (.legacy name) = none := by
  have apart : ∀ key : SettingsKey, key = .legacy name → key.scope ≠ plan.settings.scope := by
    rintro _ rfl
    exact named.symm
  cases takes with
  | session sessions takes =>
      have differs : SettingsKey.legacy Tracker.installName ≠
          .legacy SessionRecord.settingsName := by decide
      have stays : (plan.started store).world.resources.settings.backend.AlikeOn
          (· = .legacy SessionRecord.settingsName) (plan.leaves store).backend :=
        leaves_alikeOn_started apart fun isLegacy => absurd isLegacy differs
      exact (stays.records _ rfl).trans (started_of_takes named sessions takes)
  | install inRuntime asked takes =>
      have spared : World.Spares (· = .legacy Tracker.installName) _ _ :=
        Tracker.trackInstall_spares (plan.started_quiet store)
          (fun isLegacy => apart _ isLegacy rfl) plan.now
      have stays := spared.records fun key isKey isLegacy => by
        refine apart key isLegacy ?_
        rw [started_sessionKey plan store key isKey]
        rfl
      rw [leaves_eq, if_pos ⟨inRuntime, asked⟩]
      exact (stays.records _ rfl).trans (SettingsStore.migrate_of_takes takes)

end LaunchPlan

end Telemetry

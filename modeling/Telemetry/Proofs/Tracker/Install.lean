import Telemetry.Proofs.Tracker.Records
import Telemetry.Proofs.Tracker.Signals

/-!
Contract: what a launch does about the event of a first launch.

Owns:
- the calls that a launch makes for it, and when they lead to a stored event;
- what the queue, the record and the signals then are, and what they are otherwise;
- that a record of a first launch stays, and keeps the event from being stored.

Does not own: launches of several trackers.
-/

namespace Telemetry

variable {η : Type}

namespace Tracker

/-! ### Events that only built-in machines see -/

section Quiet

variable {tracker : Tracker η} (quiet : tracker.manager.Knows (World.Origin fun _ => False))

/-- No built-in machine votes, and none offers values. -/
theorem concerned_eq_nil {manager : Manager (World η)}
    (builtIn : manager.Knows (World.Origin fun _ => False)) (event : ObservedEvent) :
    manager.concerned Subscriptions.filter event = [] ∧
      manager.concerned Subscriptions.payloadValues event = [] := by
  constructor <;> refine List.filter_eq_nil_iff.mpr fun machine member => ?_
  · cases builtIn.registered machine member with
    | host _ isHosted => exact isHosted.elim
    | _ => exact Bool.false_ne_true
  · cases builtIn.registered machine member with
    | host _ isHosted => exact isHosted.elim
    | _ => exact Bool.false_ne_true

include quiet

theorem votes_eq_nil (event : Event) (now : Int) : tracker.votes event now = [] := by
  have asked := (enriched_asks World.announces_cumulative (fun _ origin => origin.announces)
    (fun _ => World.announces_of_bus rfl) quiet event now).asked
  simp only [votes]
  rw [(concerned_eq_nil asked.knows _).1]
  rfl

theorem enriched_fields_of_quiet (event : Event) (now : Int) :
    (tracker.enriched event now).1.fields = event.data := by
  obtain ⟨manager, _⟩ := tracker.identify_frame event
  have builtIn : (tracker.identify event).2.manager.Knows (World.Origin fun _ => False) := by
    rw [manager]
    exact quiet
  have noted := (builtIn.snapshot World.announces_cumulative (fun _ origin => origin.announces)
    (tracker.identify event).2.world (tracker.observed event now)).knows
  simp only [enriched, enrich, Manager.addPayloadValues]
  rw [(concerned_eq_nil noted _).2]
  rfl

end Quiet

/-! ### The row -/

/-- The row holds an event of a first launch with an instant. -/
def InstallRow (base64 : Bool) (instant : Int) (row : StoredRow) : Prop :=
  ∃ stored : QueuedEvent, row.event? = some stored ∧
    stored.payload.get? Keys.trueTimestamp = some (Decimal.integerText instant) ∧
    stored.payload.decoded? Json.parse? base64 Keys.unstructuredEncoded Keys.unstructured =
      some (Build.bodyJson Schemas.applicationInstall [])

theorem parse?_installBody :
    Json.parse? (Build.bodyJson Schemas.applicationInstall []).text =
      some (Build.bodyJson Schemas.applicationInstall []) := by
  refine Json.parse?_text (.withSchema (.withSchema (.object (by decide) ?_) _) _)
  exact fun _ member => nomatch member

theorem track_installRow {tracker : Tracker η}
    (quiet : tracker.manager.Knows (World.Origin fun _ => False)) {now : Int} {id : Uuid}
    (tracked : (tracker.track (installEvent now) now).1 = some id) :
    ∃ row, (tracker.track (installEvent now) now).2.rows = tracker.rows ++ [row] ∧
      InstallRow tracker.settings.base64 now row := by
  obtain ⟨row, stored, rows, isStored, payload⟩ := track_row tracked
  refine ⟨row, rows, stored, isStored, ?_, ?_⟩
  · rw [payload]
    exact Build.get?_payload_trueTimestamp _ _ _ _ rfl
  · have fields := enriched_fields_of_quiet quiet (installEvent now) now
    have settings := (tracker.voted_frame (installEvent now) now).1
    rw [payload, built, payloadOf, fields, ← settings]
    exact Build.decoded?_body rfl parse?_installBody

/-! ### The calls of a launch -/

/-- Where the first launch of the tracker's scope is recorded. -/
def installKey (tracker : Tracker η) : SettingsKey := ⟨tracker.settings.scope, installName⟩

/-- What a launch has when it tried to move a legacy record. -/
def migrated (tracker : Tracker η) : Resources :=
  (tracker.world.resources.migrate tracker.installKey some).2

/-- The answer to reading the record of a first launch after that. -/
def lookedUp (tracker : Tracker η) : Except SettingsError (Option Json) × Resources :=
  tracker.migrated.read tracker.installKey

/-- The answer to writing the record after that. -/
def noted (tracker : Tracker η) (now : Int) : Except SettingsError Unit × Resources :=
  tracker.lookedUp.2.write tracker.installKey (installRecord now)

/-- The tracker that goes on to track the event. -/
def recorded (tracker : Tracker η) (now : Int) : Tracker η :=
  tracker.withResources (tracker.noted now).2

/-- Reading finds no record of a first launch after the move of a legacy one was tried, writing
a record succeeds, and the queue takes the event. -/
structure LaunchesFirst (tracker : Tracker η) (now : Int) : Prop where
  unrecorded : tracker.lookedUp.1 = .ok none
  written : (tracker.noted now).1 = .ok ()
  inserted : (tracker.recorded now).Stores (installEvent now) now

/-- The event is tracked, and reported if it is queued. -/
def reportInstall (tracker : Tracker η) (now : Int) : Tracker η :=
  match tracker.track (installEvent now) now with
  | (some _, tracker) => tracker.publish (.install now)
  | (none, tracker) => tracker

theorem trackInstall_eq (tracker : Tracker η) (now : Int) :
    tracker.trackInstall now =
      match tracker.lookedUp with
      | (.ok none, resources) =>
        match resources.write tracker.installKey (installRecord now) with
        | (.ok _, resources) => (tracker.withResources resources).reportInstall now
        | (.error _, resources) => tracker.withResources resources
      | (_, resources) => tracker.withResources resources :=
  rfl

theorem reportInstall_of_some {tracker : Tracker η} {now : Int} {id : Uuid}
    (tracked : (tracker.track (installEvent now) now).1 = some id) :
    tracker.reportInstall now =
      (tracker.track (installEvent now) now).2.publish (.install now) := by
  unfold reportInstall
  generalize tracker.track (installEvent now) now = answered at tracked
  obtain ⟨answer, after⟩ := answered
  obtain rfl : answer = some id := tracked
  rfl

theorem reportInstall_of_none {tracker : Tracker η} {now : Int}
    (dropped : (tracker.track (installEvent now) now).1 = none) :
    tracker.reportInstall now = (tracker.track (installEvent now) now).2 := by
  unfold reportInstall
  generalize tracker.track (installEvent now) now = answered at dropped
  obtain ⟨answer, after⟩ := answered
  obtain rfl : answer = none := dropped
  rfl

/-- Tracking the event changes session records alone, so the record that was written stays. -/
theorem reportInstall_changesSessions {tracker : Tracker η} {hosted : Machine η → Prop}
    (knows : tracker.manager.Knows (World.Origin hosted)) (now : Int) :
    tracker.world.ChangesSessions (tracker.reportInstall now).world := by
  have tracked := track_changesSessions knows (installEvent now) now
  cases answer : (tracker.track (installEvent now) now).1 with
  | none =>
      rw [reportInstall_of_none answer]
      exact tracked
  | some id =>
      rw [reportInstall_of_some answer]
      exact tracked.trans (Resources.changesSessions_of_settings (publish_settings _ _))

/-- A launch that finds a record, or cannot look, goes no further. -/
theorem trackInstall_of_found {tracker : Tracker η} (found : tracker.lookedUp.1 ≠ .ok none)
    (now : Int) : tracker.trackInstall now = tracker.withResources tracker.lookedUp.2 := by
  rw [trackInstall_eq]
  generalize tracker.lookedUp = looked at found
  obtain ⟨answer, resources⟩ := looked
  match answer, found with
  | .error cause, _ => rfl
  | .ok (some value), _ => rfl
  | .ok none, found => exact absurd rfl found

/-- Without a record one is written, and then the event is tracked. -/
theorem trackInstall_of_unrecorded {tracker : Tracker η}
    (unrecorded : tracker.lookedUp.1 = .ok none) (now : Int) :
    tracker.trackInstall now =
      match (tracker.noted now).1 with
      | .ok _ => (tracker.recorded now).reportInstall now
      | .error _ => tracker.recorded now := by
  rw [trackInstall_eq, recorded, noted]
  generalize tracker.lookedUp = looked at unrecorded
  obtain ⟨answer, resources⟩ := looked
  obtain rfl : answer = .ok none := unrecorded
  simp only
  generalize resources.write tracker.installKey (installRecord now) = written
  obtain ⟨outcome, after⟩ := written
  cases outcome <;> rfl

/-- A launch goes on as far as its calls succeed. -/
theorem trackInstall_cases (tracker : Tracker η) (now : Int) :
    (tracker.lookedUp.1 ≠ .ok none ∧
        tracker.trackInstall now = tracker.withResources tracker.lookedUp.2) ∨
      ((tracker.noted now).1 ≠ .ok () ∧ tracker.trackInstall now = tracker.recorded now) ∨
      (tracker.lookedUp.1 = .ok none ∧ (tracker.noted now).1 = .ok () ∧
        tracker.trackInstall now = (tracker.recorded now).reportInstall now) := by
  by_cases unrecorded : tracker.lookedUp.1 = .ok none
  · have goesOn := trackInstall_of_unrecorded unrecorded now
    cases isWritten : (tracker.noted now).1 with
    | error cause =>
        rw [isWritten] at goesOn
        exact .inr (.inl ⟨nofun, goesOn⟩)
    | ok done =>
        rw [isWritten] at goesOn
        exact .inr (.inr ⟨unrecorded, rfl, goesOn⟩)
  · exact .inl ⟨unrecorded, trackInstall_of_found unrecorded now⟩

end Tracker

/-! ### Records of a first launch -/

/-- A first launch in a scope is on record. -/
def SettingsBackend.Installed (backend : SettingsBackend) (scope : String) : Prop :=
  (backend.recordAt? ⟨scope, Tracker.installName⟩).isSome

theorem SettingsBackend.Retains.installed {before after : SettingsBackend}
    (retains : before.Retains after) {scope : String} (named : scope ≠ legacyScope)
    (installed : before.Installed scope) : after.Installed scope :=
  retains ⟨scope, Tracker.installName⟩ named installed

/-- A change of session records leaves the records of first launches as they are. -/
theorem Resources.ChangesSessions.recordAt? {before after : Resources}
    (changes : before.ChangesSessions after) (scope : String) :
    after.settings.backend.recordAt? ⟨scope, Tracker.installName⟩ =
      before.settings.backend.recordAt? ⟨scope, Tracker.installName⟩ := by
  have otherName : Tracker.installName ≠ SessionRecord.settingsName := by decide
  exact changes ⟨scope, Tracker.installName⟩ otherName

theorem Resources.ChangesSessions.installed {before after : Resources}
    (changes : before.ChangesSessions after) {scope : String}
    (installed : before.settings.backend.Installed scope) :
    after.settings.backend.Installed scope := by
  rw [SettingsBackend.Installed, changes.recordAt? scope]
  exact installed

namespace Tracker

variable {tracker : Tracker η} {now : Int}

theorem lookedUp_backend (tracker : Tracker η) :
    tracker.lookedUp.2.settings.backend = tracker.migrated.settings.backend :=
  tracker.migrated.settings.get_backend tracker.installKey

/-- The move of a legacy record takes no record of a scope away. -/
theorem lookedUp_installed {scope : String} (named : scope ≠ legacyScope)
    (installed : tracker.world.resources.settings.backend.Installed scope) :
    tracker.lookedUp.2.settings.backend.Installed scope := by
  rw [lookedUp_backend]
  exact (tracker.world.resources.settings.migrate_retains tracker.installKey some).installed named
    installed

theorem noted_installed {scope : String} (named : scope ≠ legacyScope)
    (installed : tracker.world.resources.settings.backend.Installed scope) (now : Int) :
    (tracker.noted now).2.settings.backend.Installed scope :=
  (tracker.lookedUp.2.settings.set_retains tracker.installKey _).installed named
    (lookedUp_installed named installed)

/-- A record that is there is found, or reading fails. -/
theorem lookedUp_of_installed (named : tracker.settings.scope ≠ legacyScope)
    (installed : tracker.world.resources.settings.backend.Installed tracker.settings.scope) :
    tracker.lookedUp.1 ≠ .ok none := by
  intro unrecorded
  have absent : tracker.migrated.settings.backend.recordAt? tracker.installKey = none :=
    SettingsStore.recordAt?_of_get_none unrecorded
  have held := lookedUp_installed named installed
  rw [lookedUp_backend, SettingsBackend.Installed, ← installKey, absent] at held
  cases held

/-- A record that is written is there, and can be read if its text is a value. -/
theorem noted_record (written : (tracker.noted now).1 = .ok ()) :
    ∃ content, (tracker.noted now).2.settings.backend.recordAt? tracker.installKey = some content ∧
      ((installRecord now).ComesBack → content.value? = some (installRecord now)) := by
  rcases tracker.lookedUp.2.settings.set_cases tracker.installKey (installRecord now) with
    ⟨⟨cause, failed⟩, _⟩ | ⟨_, isSet⟩
  · cases failed.symm.trans written
  · refine ⟨_, (SettingsBackend.set_replaces isSet tracker.installKey).trans (if_pos rfl), ?_⟩
    exact fun comesBack => SettingsBackend.value?_stored _ comesBack

theorem installRecord_comesBack (hasWord : Json.HasWord now) : (installRecord now).ComesBack := by
  refine Json.parse?_text (.object (Entries.ordered_of_keys ["timestamp_ms"] rfl (by decide)) ?_)
  rw [List.forall_mem_singleton]
  exact .integer hasWord

/-! ### The outcome -/

/-- What is left when the event of a first launch was stored: one row more that holds it, the
record, which stands for the same instant, and the signal of it. -/
structure StoredInstall (before : Tracker η) (now : Int) (after : Tracker η) : Prop where
  row : ∃ row, after.rows = before.rows ++ [row] ∧ InstallRow before.settings.base64 now row
  installed : after.world.resources.settings.backend.Installed before.settings.scope
  record : Json.HasWord now →
    after.world.resources.settings.backend.get before.installKey = .ok (some (installRecord now))
  published : ∃ bus, before.world.resources.bus.AddsNoInstall bus ∧
    after.world.resources.bus = bus.publish (.install now)

/-- What is left when it was not: the rows, and no signal of it. -/
structure NoInstall (before after : Tracker η) : Prop where
  rows : after.rows = before.rows
  published : before.world.resources.bus.AddsNoInstall after.world.resources.bus

theorem noInstall_of_withResources {resources : Resources}
    (bus : resources.bus = tracker.world.resources.bus) :
    NoInstall tracker (tracker.withResources resources) := by
  refine ⟨rfl, ?_⟩
  rw [← bus]
  exact Bus.addsNoInstall_self _

section Outcomes

variable (quiet : tracker.manager.Knows (World.Origin fun _ => False))

include quiet

/-- Without a machine that votes, the event is tracked exactly if the queue takes it. -/
theorem track_eq_some_iff (on : tracker.tracking = true) (event : Event) (now : Int) {id : Uuid} :
    (tracker.track event now).1 = some id ↔ id = tracker.idOf event ∧ tracker.Stores event now := by
  have accepted : some false ∉ tracker.votes event now := by
    rw [votes_eq_nil quiet]
    exact List.not_mem_nil
  rw [(track_outcome quiet event now).answered id]
  exact ⟨fun ⟨isId, _, _, stores⟩ => ⟨isId, stores⟩,
    fun ⟨isId, stores⟩ => ⟨isId, on, accepted, stores⟩⟩

theorem storedInstall_of_launchesFirst (on : tracker.tracking = true)
    (first : tracker.LaunchesFirst now) :
    StoredInstall tracker now (tracker.trackInstall now) := by
  obtain ⟨unrecorded, written, stores⟩ := first
  have quietThen : (tracker.recorded now).manager.Knows (World.Origin fun _ => False) := quiet
  have tracked := (track_eq_some_iff quietThen on (installEvent now) now).mpr ⟨rfl, stores⟩
  have goesOn : tracker.trackInstall now = (tracker.recorded now).reportInstall now := by
    rcases tracker.trackInstall_cases now with ⟨found, _⟩ | ⟨refused, _⟩ | ⟨_, _, goesOn⟩
    · exact absurd unrecorded found
    · exact absurd written refused
    · exact goesOn
  have changes : (tracker.noted now).2.ChangesSessions
      ((tracker.recorded now).reportInstall now).world.resources :=
    reportInstall_changesSessions quietThen now
  obtain ⟨content, isStored, isValue⟩ := noted_record written
  have held := (changes.recordAt? tracker.settings.scope).trans isStored
  have isDone := reportInstall_of_some tracked
  rw [goesOn]
  constructor
  case row =>
    rw [isDone]
    exact track_installRow quietThen tracked
  case installed => exact Option.isSome_of_eq_some held
  case record =>
    intro hasWord
    exact SettingsBackend.get_eq_some_iff.mpr
      ⟨content, held, isValue (installRecord_comesBack hasWord)⟩
  case published =>
    rw [isDone]
    exact ⟨_, track_addsNoInstall quietThen (installEvent now) now, rfl⟩

theorem noInstall_of_not_launchesFirst (on : tracker.tracking = true)
    (notFirst : ¬ tracker.LaunchesFirst now) :
    NoInstall tracker (tracker.trackInstall now) := by
  rcases tracker.trackInstall_cases now with
    ⟨_, isDone⟩ | ⟨_, isDone⟩ | ⟨unrecorded, written, isDone⟩
  · rw [isDone]
    exact noInstall_of_withResources rfl
  · rw [isDone]
    exact noInstall_of_withResources rfl
  · -- Reading and writing went well, so it is the queue that does not take the event.
    have notStored : ¬ (tracker.recorded now).Stores (installEvent now) now :=
      fun stores => notFirst ⟨unrecorded, written, stores⟩
    have quietThen : (tracker.recorded now).manager.Knows (World.Origin fun _ => False) := quiet
    have outcome := track_outcome quietThen (installEvent now) now
    have dropped : ((tracker.recorded now).track (installEvent now) now).1 = none := by
      rw [Option.eq_none_iff_forall_ne_some]
      intro id tracked
      exact notStored ((track_eq_some_iff quietThen on _ now).mp tracked).2
    rw [isDone, reportInstall_of_none dropped]
    exact ⟨congrArg QueueBackend.contents (outcome.dropped dropped),
      track_addsNoInstall quietThen (installEvent now) now⟩

end Outcomes

/-- A record of a first launch stays, whatever scope launches. -/
theorem trackInstall_installed (quiet : tracker.manager.Knows (World.Origin fun _ => False))
    {scope : String} (named : scope ≠ legacyScope)
    (installed : tracker.world.resources.settings.backend.Installed scope) (now : Int) :
    (tracker.trackInstall now).world.resources.settings.backend.Installed scope := by
  rcases tracker.trackInstall_cases now with ⟨_, isDone⟩ | ⟨_, isDone⟩ | ⟨_, _, isDone⟩
  · rw [isDone]
    exact lookedUp_installed named installed
  · rw [isDone]
    exact noted_installed named installed now
  · have quietThen : (tracker.recorded now).manager.Knows (World.Origin fun _ => False) := quiet
    have changes : (tracker.noted now).2.ChangesSessions
        ((tracker.recorded now).reportInstall now).world.resources :=
      reportInstall_changesSessions quietThen now
    rw [isDone]
    exact changes.installed (noted_installed named installed now)

end Tracker

end Telemetry

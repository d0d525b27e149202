import Telemetry.Proofs.Tracker.Launches

/-!
Contract: a first launch that is on record is not tracked again.

Owns:
- what counts as being on record: a record of the scope, or one in the legacy layout;
- the one way in which a launch overlooks a legacy record: the call to move it fails, and all
  calls after it succeed;
- that any other launch tracks nothing, whichever of its calls fail.

Does not own: what a launch does when nothing is on record.
-/

namespace Telemetry

variable {η : Type}

/-- A first launch is on record for a scope: in a record of the scope, or in the legacy layout. -/
def SettingsBackend.KnowsLaunch (backend : SettingsBackend) (scope : String) : Prop :=
  backend.Installed scope ∨ backend.Installed legacyScope

/-- A call to move the legacy record of a key fails: it is refused, or the record is no value. -/
def SettingsStore.FailsToMove (store : SettingsStore) (key : SettingsKey) : Prop :=
  store.refuses .migrate store.calls = true ∨
    ∃ content, store.backend.recordAt? (.legacy key.name) = some content ∧ content.value? = none

/-- A call to move a record loses no table. -/
theorem SettingsStore.migrate_works {store : SettingsStore} (works : store.backend.Works)
    (key : SettingsKey) (transform : Json → Option Json) :
    (store.migrate key transform).2.backend.Works := by
  rcases store.migrate_backend key transform with same | moved
  · rw [same]
    exact works
  · obtain ⟨_, _, records⟩ := SettingsBackend.movedRecord_of_migrate moved
    exact SettingsBackend.works_of_record records.atKey

namespace Tracker

/-- The launch overlooks a legacy record. Its scope has no record, the call to move the legacy one
fails, and the calls that follow do not: the record of the scope is looked up and written, and the
queue takes the event. -/
structure OverlooksLaunch (tracker : Tracker η) (now : Int) : Prop where
  unrecorded : ¬ tracker.world.resources.settings.backend.Installed tracker.settings.scope
  unmoved : tracker.world.resources.settings.FailsToMove tracker.installKey
  reads : tracker.world.resources.settings.refuses .get
    (tracker.world.resources.settings.calls + 1) = false
  writes : tracker.world.resources.settings.refuses .set
    (tracker.world.resources.settings.calls + 2) = false
  inserted : (tracker.recorded now).Stores (installEvent now) now

variable {tracker : Tracker η} {now : Int}

/-! ### The calls after the move -/

theorem migrated_frame (tracker : Tracker η) :
    tracker.migrated.settings.calls = tracker.world.resources.settings.calls + 1 ∧
      tracker.migrated.settings.refuses = tracker.world.resources.settings.refuses :=
  SettingsStore.migrate_frame some

theorem lookedUp_frame (tracker : Tracker η) :
    tracker.lookedUp.2.settings.calls = tracker.world.resources.settings.calls + 2 ∧
      tracker.lookedUp.2.settings.refuses = tracker.world.resources.settings.refuses := by
  obtain ⟨calls, refuses⟩ := tracker.migrated_frame
  have called : tracker.lookedUp.2.settings.calls = tracker.migrated.settings.calls + 1 ∧
      tracker.lookedUp.2.settings.refuses = tracker.migrated.settings.refuses := by
    simp only [lookedUp, Resources.read, SettingsStore.get]
    split <;> exact ⟨rfl, rfl⟩
  exact ⟨called.1.trans (congrArg (· + 1) calls), called.2.trans refuses⟩

/-- Reading finds no record exactly if the call is not refused and there is none after the move. -/
theorem lookedUp_eq_none_iff (works : tracker.migrated.settings.backend.Works) :
    tracker.lookedUp.1 = .ok none ↔
      tracker.world.resources.settings.refuses .get
          (tracker.world.resources.settings.calls + 1) = false ∧
        tracker.migrated.settings.backend.recordAt? tracker.installKey = none := by
  obtain ⟨calls, refuses⟩ := tracker.migrated_frame
  have asked : tracker.migrated.settings.refuses .get tracker.migrated.settings.calls =
      tracker.world.resources.settings.refuses .get
        (tracker.world.resources.settings.calls + 1) := by
    rw [calls, refuses]
  rw [← asked, ← SettingsBackend.get_eq_none_iff works]
  simp only [lookedUp, Resources.read, SettingsStore.get]
  cases tracker.migrated.settings.refuses .get tracker.migrated.settings.calls with
  | true => simp
  | false => simp

/-- Writing succeeds exactly if the call is not refused. -/
theorem noted_eq_ok_iff (works : tracker.lookedUp.2.settings.backend.Works) (now : Int) :
    (tracker.noted now).1 = .ok () ↔
      tracker.world.resources.settings.refuses .set
        (tracker.world.resources.settings.calls + 2) = false := by
  obtain ⟨calls, refuses⟩ := tracker.lookedUp_frame
  obtain ⟨after, written, _⟩ :=
    SettingsBackend.set_of_works works tracker.installKey (installRecord now)
  rw [← calls, ← refuses]
  simp only [noted, Resources.write, SettingsStore.set, written]
  cases tracker.lookedUp.2.settings.refuses .set tracker.lookedUp.2.settings.calls with
  | true => simp
  | false => simp

/-! ### The move -/

/-- A record of the scope itself is never replaced by a legacy one. -/
theorem migrated_of_installed
    (installed : tracker.world.resources.settings.backend.Installed tracker.settings.scope) :
    tracker.migrated.settings.backend = tracker.world.resources.settings.backend := by
  refine (tracker.world.resources.settings.movesWhole tracker.installKey some).unchanged ?_
  intro moved
  obtain ⟨_, _, absent, _⟩ :=
    (tracker.world.resources.settings.movesWhole tracker.installKey some).moves.mp moved
  rw [SettingsBackend.Installed, ← installKey, absent] at installed
  cases installed

/-- If only the legacy layout has a record, then after the move the scope has none exactly if the
move fails; the backend then is as it was. -/
theorem migrated_of_legacy
    (unrecorded : ¬ tracker.world.resources.settings.backend.Installed tracker.settings.scope)
    (legacy : tracker.world.resources.settings.backend.Installed legacyScope) :
    tracker.migrated.settings.backend.recordAt? tracker.installKey = none ↔
      tracker.world.resources.settings.FailsToMove tracker.installKey := by
  have absent : tracker.world.resources.settings.backend.recordAt? tracker.installKey = none :=
    Option.not_isSome_iff_eq_none.mp unrecorded
  obtain ⟨content, isStored⟩ := Option.isSome_iff_exists.mp legacy
  have outcome := tracker.world.resources.settings.movesWhole tracker.installKey some
  constructor
  · intro noneThen
    by_contra works
    obtain ⟨accepted, readable⟩ := not_or.mp works
    obtain ⟨old, isValue⟩ : ∃ old, content.value? = some old :=
      Option.ne_none_iff_exists'.mp fun noValue => readable ⟨content, isStored, noValue⟩
    have moved := outcome.moves.mpr
      ⟨Bool.eq_false_iff.mpr accepted, old, absent, content, old, isStored, isValue, rfl⟩
    obtain ⟨_, _, records⟩ := outcome.records moved
    exact nomatch records.atKey.symm.trans noneThen
  · intro fails
    have unmoved : (tracker.world.resources.settings.migrate tracker.installKey some).1 ≠
        .ok true := by
      intro moved
      obtain ⟨accepted, _, _, other, old, isOther, isValue, _⟩ := outcome.moves.mp moved
      rcases fails with refused | ⟨held, isHeld, noValue⟩
      · exact nomatch accepted.symm.trans refused
      · obtain rfl := Option.some.inj (isOther.symm.trans isHeld)
        exact nomatch noValue.symm.trans isValue
    exact (congrArg (·.recordAt? tracker.installKey) (outcome.unchanged unmoved)).trans absent

/-! ### The launch -/

/-- With a first launch on record a launch goes as far as to store the event of one only if it
overlooks the record. -/
theorem launchesFirst_iff_overlooks
    (known : tracker.world.resources.settings.backend.KnowsLaunch tracker.settings.scope) :
    tracker.LaunchesFirst now ↔ tracker.OverlooksLaunch now := by
  by_cases installed : tracker.world.resources.settings.backend.Installed tracker.settings.scope
  · have same := migrated_of_installed installed
    constructor
    · intro first
      have absent := SettingsStore.recordAt?_of_get_none first.unrecorded
      rw [same] at absent
      rw [SettingsBackend.Installed, ← installKey, absent] at installed
      cases installed
    · exact fun overlooks => absurd installed overlooks.unrecorded
  · have legacy := known.resolve_left installed
    have moves := migrated_of_legacy installed legacy
    obtain ⟨_, isStored⟩ := Option.isSome_iff_exists.mp legacy
    have works : tracker.migrated.settings.backend.Works :=
      SettingsStore.migrate_works (SettingsBackend.works_of_record isStored) tracker.installKey some
    have worksStill : tracker.lookedUp.2.settings.backend.Works := by
      rw [lookedUp_backend]
      exact works
    have looksUp := lookedUp_eq_none_iff works
    have notes := noted_eq_ok_iff worksStill now
    constructor
    · rintro ⟨unrecorded, written, inserted⟩
      obtain ⟨reads, absent⟩ := looksUp.mp unrecorded
      exact ⟨installed, moves.mp absent, reads, notes.mp written, inserted⟩
    · rintro ⟨_, unmoved, reads, writes, inserted⟩
      exact ⟨looksUp.mpr ⟨reads, moves.mpr unmoved⟩, notes.mpr writes, inserted⟩

end Tracker

namespace LaunchPlan

/-- A launch overlooks a legacy record: it gets as far as to look for one, and then does. -/
def OverlooksLaunch (plan : LaunchPlan η) (store : SettingsStore) : Prop :=
  plan.inRuntime = true ∧ plan.settings.install = true ∧
    (plan.started store).OverlooksLaunch plan.now

/-- A launch tracks no first launch: it adds no row, and reports none. -/
def TracksNoLaunch (plan : LaunchPlan η) (store : SettingsStore) : Prop :=
  ∀ tracker, plan.launch store = .ok tracker →
    tracker.rows = plan.queue.backend.contents ∧
      ∃ signals, tracker.world.resources.bus.published = signals ++ plan.bus.published ∧
        ∀ instant, .install instant ∉ signals

variable {plan : LaunchPlan η} {store : SettingsStore}

/-- Loading a session leaves the records of first launches. -/
theorem started_knowsLaunch (known : store.backend.KnowsLaunch plan.settings.scope) :
    (plan.started store).world.resources.settings.backend.KnowsLaunch plan.settings.scope :=
  known.imp plan.started_installed plan.started_installed

theorem tracksNoLaunch_iff {tracker : Tracker η} (launched : plan.launch store = .ok tracker)
    (outcome : plan.Outcome store tracker) :
    plan.TracksNoLaunch store ↔ plan.added store = [] := by
  constructor
  · intro nothing
    obtain ⟨rows, _⟩ := nothing tracker launched
    exact List.append_right_eq_self.mp (outcome.rows.symm.trans rows)
  · intro nothing other isOther
    obtain rfl := Except.ok.inj (launched.symm.trans isOther)
    obtain ⟨signals, published, reported⟩ := outcome.publishes
    refine ⟨?_, signals, published, fun instant member => ?_⟩
    · rw [outcome.rows, nothing, List.append_nil]
    · exact ((reported instant).mp member).2 nothing

/-- With a first launch on record, in a record of the scope or in the legacy layout, a launch
tracks none, whichever of its calls fail, but in one case: the scope has no record, the call to
move the legacy one fails, and the scope's record is then looked up and written. -/
theorem known_launch_is_not_tracked_iff
    (known : store.backend.KnowsLaunch plan.settings.scope) :
    plan.TracksNoLaunch store ↔ ¬ plan.OverlooksLaunch store := by
  cases inRuntime : plan.inRuntime with
  | false =>
      have failed := launch_of_no_runtime store inRuntime
      have nothing : plan.TracksNoLaunch store :=
        fun _ launched => nomatch failed.symm.trans launched
      exact ⟨fun _ overlooks => absurd (inRuntime.symm.trans overlooks.1) nofun, fun _ => nothing⟩
  | true =>
      obtain ⟨tracker, launched, outcome⟩ := plan.launch_outcome store inRuntime
      have goesOn : (plan.started store).LaunchesFirst plan.now ↔
          (plan.started store).OverlooksLaunch plan.now :=
        Tracker.launchesFirst_iff_overlooks (started_knowsLaunch known)
      have adds := outcome.adds
      rw [goesOn] at adds
      rw [tracksNoLaunch_iff launched outcome, ← not_iff_not, not_not]
      exact ⟨fun isThere => ⟨inRuntime, adds.mp isThere⟩, fun overlooks => adds.mpr overlooks.2⟩

/-- The legacy record can neither be moved nor looked up, so the launch leaves the decision to a
later one. -/
theorem refused_lookup_tracks_no_launch :
    let store : SettingsStore := {
      backend := .memory ⟨[(.legacy Tracker.installName, Tracker.installRecord 1)]⟩
      refuses := fun call _ => call == .migrate || call == .get }
    let plan : LaunchPlan Unit := {
      settings := { scope := "app" }
      queue := { backend := .memory .empty }
      uuids := ⟨fun n => ⟨n⟩, 0⟩
      host := ()
      now := 5 }
    store.backend.KnowsLaunch "app" ∧ plan.TracksNoLaunch store := by
  intro store plan
  have known : store.backend.KnowsLaunch plan.settings.scope := .inr rfl
  refine ⟨known, (known_launch_is_not_tracked_iff known).mpr ?_⟩
  rintro ⟨_, _, overlooks⟩
  have reads : (plan.started store).world.resources.settings.refuses .get
      ((plan.started store).world.resources.settings.calls + 1) = true := by decide +kernel
  exact nomatch overlooks.reads.symm.trans reads

/-- If the call to move the legacy record is refused and nothing else, the launch tracks a first
launch that is on record already. -/
theorem refused_move_tracks_known_launch :
    let store : SettingsStore := {
      backend := .memory ⟨[(.legacy Tracker.installName, Tracker.installRecord 1)]⟩
      refuses := fun call _ => call == .migrate }
    let plan : LaunchPlan Unit := {
      settings := { scope := "app" }
      queue := { backend := .memory .empty }
      uuids := ⟨fun n => ⟨n⟩, 0⟩
      host := ()
      now := 5 }
    store.backend.KnowsLaunch "app" ∧ ¬ plan.TracksNoLaunch store ∧
      ∃ row, plan.added store = [row] ∧ Tracker.InstallRow true 5 row := by
  intro store plan
  have one : (plan.added store).length = 1 := by decide +kernel
  obtain ⟨row, isAdded⟩ := List.length_eq_one_iff.mp one
  obtain ⟨tracker, launched, outcome⟩ := plan.launch_outcome store rfl
  refine ⟨.inr rfl, ?_, row, isAdded, outcome.holds row (by simp [isAdded])⟩
  rw [tracksNoLaunch_iff launched outcome, isAdded]
  exact List.cons_ne_nil row []

end LaunchPlan

end Telemetry

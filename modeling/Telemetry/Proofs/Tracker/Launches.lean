import Telemetry.Proofs.Tracker.Install

/-!
Contract: over one settings store the event of a first launch is stored at most once for a scope.

Owns:
- launches and trackers that share a settings store, and their runs;
- the rows that a launch adds, and those that all launches of a scope add over a run;
- what one move does to the record of a scope, and what a whole run does.

Does not own: what a launch does with its calls.
-/

namespace Telemetry

variable {η : Type}

/-- What a launch is given. Its resources come without their settings store, which is shared. -/
structure LaunchPlan (η : Type) where
  settings : TrackerSettings
  sessionConfig : SessionConfig := {}
  deliveryConfig : DeliveryConfig := {}
  queue : EventQueue
  bus : Bus := .standard
  uuids : UuidSource
  source : Option PropertySource := none
  elapsed : Nat := 0
  host : η
  inRuntime : Bool := true
  now : Int

namespace LaunchPlan

def parts (plan : LaunchPlan η) (store : SettingsStore) : Tracker.Parts η where
  queue := plan.queue
  resources := ⟨store, plan.bus, plan.uuids⟩
  source := plan.source
  elapsed := plan.elapsed
  host := plan.host

/-- The tracker before its emitter is started. -/
def prepared (plan : LaunchPlan η) (store : SettingsStore) : Tracker η :=
  Tracker.prepare plan.settings plan.sessionConfig plan.deliveryConfig (plan.parts store)

/-- The tracker when its emitter was started. -/
def started (plan : LaunchPlan η) (store : SettingsStore) : Tracker η :=
  { plan.prepared store with loop := { phase := .starting } }

def launch (plan : LaunchPlan η) (store : SettingsStore) : Except EmitterError (Tracker η) :=
  Tracker.launch plan.settings plan.sessionConfig plan.deliveryConfig (plan.parts store)
    plan.inRuntime plan.now

/-- The rows that the launch adds to the queue that it is given. -/
def added (plan : LaunchPlan η) (store : SettingsStore) : List StoredRow :=
  match plan.launch store with
  | .ok tracker => tracker.rows.drop plan.queue.backend.contents.length
  | .error _ => []

end LaunchPlan

/-- Trackers that share a settings store. -/
structure Fleet (η : Type) where
  settings : SettingsStore
  trackers : List (Tracker η) := []

/-- A tracker is launched, something is done with one, or others fill or empty its queue. -/
inductive FleetMove (η : Type) where
  | launch (plan : LaunchPlan η)
  | perform (index : Nat) (move : TrackerMove η)
  | refill (index : Nat) (queue : EventQueue)

namespace Fleet

/-- A tracker acts on the shared store. -/
def act (fleet : Fleet η) (index : Nat) (change : Tracker η → Tracker η) : Fleet η :=
  match fleet.trackers[index]? with
  | none => fleet
  | some tracker =>
    let after := change
      (tracker.withResources { tracker.world.resources with settings := fleet.settings })
    { settings := after.world.resources.settings, trackers := fleet.trackers.set index after }

/-- One move. A launch that fails has loaded its session all the same. -/
def perform (fleet : Fleet η) : FleetMove η → Fleet η
  | .launch plan =>
    match plan.launch fleet.settings with
    | .ok tracker =>
      { settings := tracker.world.resources.settings, trackers := fleet.trackers ++ [tracker] }
    | .error _ =>
      { fleet with settings := (plan.prepared fleet.settings).world.resources.settings }
  | .perform index move => fleet.act index fun tracker => (tracker.perform move).2
  | .refill index queue =>
    fleet.act index fun tracker => { tracker with outbox := { tracker.outbox with queue := queue } }

/-- The rows that a move adds for the first launch of a scope. -/
def addedBy (fleet : Fleet η) (scope : String) : FleetMove η → List StoredRow
  | .launch plan => if plan.settings.scope = scope then plan.added fleet.settings else []
  | _ => []

/-- The rows that a run adds for the first launch of a scope, oldest first. -/
def addedOver (fleet : Fleet η) (scope : String) : List (FleetMove η) → List StoredRow
  | [] => []
  | move :: rest => fleet.addedBy scope move ++ (fleet.perform move).addedOver scope rest

end Fleet

/-! ### One launch -/

namespace LaunchPlan

variable {plan : LaunchPlan η} {store : SettingsStore} {tracker : Tracker η}

theorem launch_eq (plan : LaunchPlan η) (store : SettingsStore) :
    plan.launch store =
      if plan.inRuntime then
        .ok (if plan.settings.install then
          (plan.started store).trackInstall plan.now
        else
          plan.started store)
      else
        .error .noRuntime := by
  unfold launch Tracker.launch
  cases plan.inRuntime with
  | true => rfl
  | false => rfl

theorem started_quiet (plan : LaunchPlan η) (store : SettingsStore) :
    (plan.started store).manager.Knows (World.Origin fun _ => False) :=
  Tracker.prepare_knows plan.settings plan.sessionConfig plan.deliveryConfig (plan.parts store)

/-- Before a launch looks for a first launch it has changed session records alone, and has
published nothing. -/
theorem started_frame (plan : LaunchPlan η) (store : SettingsStore) :
    (plan.parts store).resources.ChangesSessions (plan.started store).world.resources ∧
      (plan.started store).world.resources.bus = plan.bus := by
  have loaded : (plan.started store).world.resources =
      (Tracker.loadSession plan.settings plan.sessionConfig (plan.parts store).resources).2 := rfl
  rw [loaded, Tracker.loadSession]
  split
  · exact Session.load_frame plan.settings.scope plan.sessionConfig (plan.parts store).resources
  · exact ⟨Resources.changesSessions_of_settings rfl, rfl⟩

/-- What a launch does about the event of a first launch. -/
structure Outcome (plan : LaunchPlan η) (store : SettingsStore) (tracker : Tracker η) : Prop where
  rows : tracker.rows = plan.queue.backend.contents ++ plan.added store
  /-- A row is added exactly if the set-up asks for it and all calls succeed. -/
  adds : plan.added store ≠ [] ↔
    plan.settings.install = true ∧ (plan.started store).LaunchesFirst plan.now
  one : (plan.added store).length ≤ 1
  holds : ∀ row ∈ plan.added store, Tracker.InstallRow plan.settings.base64 plan.now row
  records : plan.added store ≠ [] →
    tracker.world.resources.settings.backend.Installed plan.settings.scope
  /-- The record stands for the instant of the row. -/
  record : plan.added store ≠ [] → Json.HasWord plan.now →
    tracker.world.resources.settings.backend.get ⟨plan.settings.scope, Tracker.installName⟩ =
      .ok (some (Tracker.installRecord plan.now))
  /-- The signal of a first launch is published exactly if a row is added. -/
  publishes : ∃ signals, tracker.world.resources.bus.published = signals ++ plan.bus.published ∧
    ∀ instant, .install instant ∈ signals ↔ instant = plan.now ∧ plan.added store ≠ []

theorem added_of_rows (launched : plan.launch store = .ok tracker) {rows : List StoredRow}
    (appended : tracker.rows = plan.queue.backend.contents ++ rows) : plan.added store = rows := by
  rw [added, launched]
  simp only [appended, List.drop_left]

theorem outcome_of_stored (launched : plan.launch store = .ok tracker)
    (asked : plan.settings.install = true) (first : (plan.started store).LaunchesFirst plan.now)
    (stored : (plan.started store).StoredInstall plan.now tracker) :
    plan.Outcome store tracker := by
  obtain ⟨row, appended, isInstall⟩ := stored.row
  have isAdded : plan.added store = [row] := added_of_rows launched appended
  have isThere : plan.added store ≠ [] := by simp [isAdded]
  constructor
  case rows => rw [isAdded]; exact appended
  case adds => exact ⟨fun _ => ⟨asked, first⟩, fun _ => isThere⟩
  case one => rw [isAdded]; exact Nat.le_refl 1
  case holds =>
    rw [isAdded, List.forall_mem_singleton]
    exact isInstall
  case records => exact fun _ => stored.installed
  case record => exact fun _ => stored.record
  case publishes =>
    obtain ⟨bus, ⟨signals, published, others⟩, isLast⟩ := stored.published
    rw [(plan.started_frame store).2] at published
    refine ⟨.install plan.now :: signals, ?_, fun instant => ?_⟩
    · rw [isLast, Bus.publish_published, published]
      rfl
    · rw [List.mem_cons, or_iff_left (others instant), Notification.install.injEq]
      exact ⟨fun same => ⟨same, isThere⟩, And.left⟩

theorem outcome_of_none (launched : plan.launch store = .ok tracker)
    (notFirst : ¬ (plan.settings.install = true ∧ (plan.started store).LaunchesFirst plan.now))
    (nothing : (plan.started store).NoInstall tracker) : plan.Outcome store tracker := by
  have appended : tracker.rows = plan.queue.backend.contents ++ [] :=
    nothing.rows.trans (List.append_nil _).symm
  have isAdded : plan.added store = [] := added_of_rows launched appended
  constructor
  case rows => rw [isAdded]; exact appended
  case adds => exact ⟨fun isThere => absurd isAdded isThere, fun first => absurd first notFirst⟩
  case one => rw [isAdded]; exact Nat.zero_le 1
  case holds => rw [isAdded]; exact fun _ member => nomatch member
  case records => exact fun isThere => absurd isAdded isThere
  case record => exact fun isThere => absurd isAdded isThere
  case publishes =>
    obtain ⟨signals, published, others⟩ := nothing.published
    rw [(plan.started_frame store).2] at published
    exact ⟨signals, published, fun instant =>
      ⟨fun member => absurd member (others instant), fun ⟨_, isThere⟩ => absurd isAdded isThere⟩⟩

/-- In a runtime a launch succeeds, with that outcome. -/
theorem launch_outcome (plan : LaunchPlan η) (store : SettingsStore)
    (inRuntime : plan.inRuntime = true) :
    ∃ tracker, plan.launch store = .ok tracker ∧ plan.Outcome store tracker := by
  have quiet := plan.started_quiet store
  have launched := plan.launch_eq store
  rw [if_pos inRuntime] at launched
  refine ⟨_, launched, ?_⟩
  by_cases asked : plan.settings.install = true
  · rw [if_pos asked] at launched ⊢
    by_cases first : (plan.started store).LaunchesFirst plan.now
    · exact outcome_of_stored launched asked first
        (Tracker.storedInstall_of_launchesFirst quiet rfl first)
    · exact outcome_of_none launched (fun both => first both.2)
        (Tracker.noInstall_of_not_launchesFirst quiet rfl first)
  · rw [if_neg asked] at launched ⊢
    exact outcome_of_none launched (fun both => asked both.1)
      ⟨rfl, Bus.addsNoInstall_self _⟩

/-- Outside of a runtime a launch fails. -/
theorem launch_of_no_runtime (store : SettingsStore) (outside : plan.inRuntime = false) :
    plan.launch store = .error .noRuntime := by
  rw [launch_eq, outside]
  rfl

end LaunchPlan

/-! ### Runs -/

namespace LaunchPlan

variable {plan : LaunchPlan η} {store : SettingsStore} {tracker : Tracker η} {scope : String}

theorem started_installed (plan : LaunchPlan η) (installed : store.backend.Installed scope) :
    (plan.started store).world.resources.settings.backend.Installed scope :=
  (plan.started_frame store).1.installed installed

/-- A launch takes no record of a first launch away. -/
theorem launch_installed (named : scope ≠ legacyScope) (installed : store.backend.Installed scope)
    (launched : plan.launch store = .ok tracker) :
    tracker.world.resources.settings.backend.Installed scope := by
  rw [launch_eq] at launched
  split at launched
  · obtain rfl := Except.ok.inj launched
    split
    · exact Tracker.trackInstall_installed (plan.started_quiet store) named
        (plan.started_installed installed) plan.now
    · exact plan.started_installed installed
  · cases launched

/-- A scope with a record has no first launch. -/
theorem added_of_installed (named : plan.settings.scope ≠ legacyScope)
    (installed : store.backend.Installed plan.settings.scope) : plan.added store = [] := by
  cases inRuntime : plan.inRuntime with
  | false => rw [added, launch_of_no_runtime store inRuntime]
  | true =>
      obtain ⟨tracker, _, outcome⟩ := plan.launch_outcome store inRuntime
      by_contra isThere
      obtain ⟨_, first⟩ := outcome.adds.mp isThere
      exact Tracker.lookedUp_of_installed named (plan.started_installed installed) first.unrecorded

end LaunchPlan

namespace Fleet

variable {fleet : Fleet η} {scope : String}

/-- The trackers have built-in machines and those of their hosts. -/
def Known (fleet : Fleet η) : Prop :=
  ∀ tracker ∈ fleet.trackers, tracker.manager.Knows (World.Origin fun _ => True)

/-- What one move leaves of what is known, and what it does about the first launch of a scope: it
adds at most one row, then the record is there, and there it stays and no row is added. -/
structure Moved (fleet : Fleet η) (scope : String) (move : FleetMove η) : Prop where
  known : (fleet.perform move).Known
  stays : fleet.settings.backend.Installed scope →
    (fleet.perform move).settings.backend.Installed scope
  spares : fleet.settings.backend.Installed scope → fleet.addedBy scope move = []
  one : (fleet.addedBy scope move).length ≤ 1
  records : fleet.addedBy scope move ≠ [] →
    (fleet.perform move).settings.backend.Installed scope

/-- A tracker that changes session records alone, and no machines but for those of its host. -/
theorem moved_of_act (known : fleet.Known) {move : FleetMove η} {index : Nat}
    {change : Tracker η → Tracker η} (isAct : fleet.perform move = fleet.act index change)
    (addsNothing : fleet.addedBy scope move = [])
    (keeps : ∀ tracker : Tracker η, tracker.manager.Knows (World.Origin fun _ => True) →
      (change tracker).manager.Knows (World.Origin fun _ => True) ∧
        tracker.world.ChangesSessions (change tracker).world) :
    fleet.Moved scope move := by
  have both : (fleet.act index change).Known ∧
      (fleet.settings.backend.Installed scope →
        (fleet.act index change).settings.backend.Installed scope) := by
    unfold act
    split
    · exact ⟨known, id⟩
    · next tracker found =>
      obtain ⟨knows, changes⟩ := keeps
        (tracker.withResources { tracker.world.resources with settings := fleet.settings })
        (known tracker (List.mem_of_getElem? found))
      refine ⟨fun other member => ?_, fun installed => ?_⟩
      · rcases List.mem_or_eq_of_mem_set member with old | rfl
        · exact known other old
        · exact knows
      · exact Resources.ChangesSessions.installed changes installed
  rw [← isAct] at both
  constructor
  case known => exact both.1
  case stays => exact both.2
  case spares => exact fun _ => addsNothing
  case one => rw [addsNothing]; exact Nat.zero_le 1
  case records => exact fun isThere => absurd addsNothing isThere

/-- A launch outside of a runtime loads its session, and that is all. -/
theorem moved_of_failed_launch (known : fleet.Known) {plan : LaunchPlan η}
    (outside : plan.inRuntime = false) : fleet.Moved scope (.launch plan) := by
  have failed := LaunchPlan.launch_of_no_runtime fleet.settings outside
  have nothing : fleet.addedBy scope (.launch plan) = [] := by
    rw [addedBy, LaunchPlan.added, failed]
    exact ite_self []
  have after : fleet.perform (.launch plan) =
      { fleet with settings := (plan.prepared fleet.settings).world.resources.settings } := by
    rw [perform, failed]
  constructor
  case known => rw [after]; exact known
  case stays =>
    intro installed
    rw [after]
    exact plan.started_installed installed
  case spares => exact fun _ => nothing
  case one => rw [nothing]; exact Nat.zero_le 1
  case records => exact fun isThere => absurd nothing isThere

/-- A launch in a runtime concerns its own scope alone. -/
theorem moved_of_launch (known : fleet.Known) (named : scope ≠ legacyScope)
    {plan : LaunchPlan η} (inRuntime : plan.inRuntime = true) :
    fleet.Moved scope (.launch plan) := by
  obtain ⟨tracker, launched, outcome⟩ := plan.launch_outcome fleet.settings inRuntime
  have after : fleet.perform (.launch plan) = {
      settings := tracker.world.resources.settings
      trackers := fleet.trackers ++ [tracker] } := by
    rw [perform, launched]
  have knownAfter : (fleet.perform (.launch plan)).Known := by
    rw [after]
    intro other member
    rcases List.mem_append.mp member with old | new
    · exact known other old
    · rw [List.mem_singleton.mp new]
      exact Tracker.launch_knows launched
  have stays : fleet.settings.backend.Installed scope →
      (fleet.perform (.launch plan)).settings.backend.Installed scope := by
    intro installed
    rw [after]
    exact LaunchPlan.launch_installed named installed launched
  by_cases isScope : plan.settings.scope = scope
  · subst isScope
    have isAdded : fleet.addedBy plan.settings.scope (.launch plan) = plan.added fleet.settings :=
      if_pos rfl
    refine ⟨knownAfter, stays, ?_, ?_, ?_⟩
    · rw [isAdded]
      exact LaunchPlan.added_of_installed named
    · rw [isAdded]
      exact outcome.one
    · rw [isAdded, after]
      exact outcome.records
  · have nothing : fleet.addedBy scope (.launch plan) = [] := if_neg isScope
    refine ⟨knownAfter, stays, fun _ => nothing, ?_, fun isThere => absurd nothing isThere⟩
    rw [nothing]
    exact Nat.zero_le 1

theorem moved (known : fleet.Known) (named : scope ≠ legacyScope) (move : FleetMove η) :
    fleet.Moved scope move := by
  cases move with
  | launch plan =>
      cases inRuntime : plan.inRuntime with
      | false => exact moved_of_failed_launch known inRuntime
      | true => exact moved_of_launch known named inRuntime
  | perform index move =>
      have isAct : fleet.perform (.perform index move) =
          fleet.act index fun tracker => (tracker.perform move).2 := rfl
      refine moved_of_act known isAct rfl fun tracker knows => ⟨?_, ?_⟩
      · exact Tracker.perform_knows knows fun _ _ => trivial
      · exact Tracker.perform_changesSessions knows move
  | refill index queue =>
      have isAct : fleet.perform (.refill index queue) = fleet.act index fun tracker =>
          { tracker with outbox := { tracker.outbox with queue := queue } } := rfl
      refine moved_of_act known isAct rfl fun tracker knows => ⟨knows, ?_⟩
      exact World.changesSessions_of_resources rfl

/-- With a record on store a run adds no row for a scope. -/
theorem addedOver_of_installed (known : fleet.Known) (named : scope ≠ legacyScope)
    (installed : fleet.settings.backend.Installed scope) (moves : List (FleetMove η)) :
    fleet.addedOver scope moves = [] := by
  induction moves generalizing fleet with
  | nil => rfl
  | cons move rest inductionHypothesis =>
      have first := moved known named move
      rw [addedOver, first.spares installed,
        inductionHypothesis first.known (first.stays installed)]
      rfl

/-- Until a run has added a row there may be no record; after it there is one. -/
theorem addedOver_length_le (known : fleet.Known) (named : scope ≠ legacyScope)
    (moves : List (FleetMove η)) : (fleet.addedOver scope moves).length ≤ 1 := by
  induction moves generalizing fleet with
  | nil => exact Nat.zero_le 1
  | cons move rest inductionHypothesis =>
      have first := moved known named move
      rw [addedOver]
      by_cases nothing : fleet.addedBy scope move = []
      · rw [nothing, List.nil_append]
        exact inductionHypothesis first.known
      · rw [addedOver_of_installed first.known named (first.records nothing), List.append_nil]
        exact first.one

end Fleet

/-- Over any settings store a run of launches, with whatever is done with the trackers in between
and whichever calls fail, stores at most one event of a first launch for a scope. A launch in a
runtime stores one exactly if it finds no record of the scope once the move of a legacy one was
tried, can write the record, and the queue takes the event. Then the event and the record have
the same instant, and then alone a first launch is reported: nothing else reports one. -/
theorem first_launch_is_stored_at_most_once (store : SettingsStore) (moves : List (FleetMove η)) :
    (∀ scope, scope ≠ legacyScope →
      (Fleet.addedOver { settings := store } scope moves).length ≤ 1) ∧
    (∀ plan : LaunchPlan η, plan.inRuntime = true →
      ∃ tracker, plan.launch store = .ok tracker ∧ plan.Outcome store tracker) ∧
    (∀ plan : LaunchPlan η, plan.inRuntime = false → plan.launch store = .error .noRuntime) ∧
    ∀ (tracker : Tracker η) (move : TrackerMove η), tracker.Reachable (fun _ => True) →
      tracker.world.resources.bus.AddsNoInstall
        (tracker.perform move).2.world.resources.bus :=
  ⟨fun _ named => Fleet.addedOver_length_le (fun _ member => absurd member List.not_mem_nil) named
      moves,
    fun plan => plan.launch_outcome store, fun _ => LaunchPlan.launch_of_no_runtime store,
    fun _ move reachable => Tracker.perform_addsNoInstall reachable.knows move⟩

/-- One scope takes over the legacy record, so its launches store nothing. Another one is kept
from writing its record and then from reading it, and stores the event of its third launch, which
is reported; its fourth launch stores none. -/
theorem third_launch_of_other_scope_is_stored :
    let store : SettingsStore := {
      backend := .table ⟨some [(.legacy Tracker.installName, "\x7b\"timestamp_ms\":1\x7d")]⟩
      refuses := fun call made => call == .set && made == 4 || call == .get && made == 6 }
    let plan (scope : String) (now : Int) : LaunchPlan Unit := {
      settings := { scope := scope, sessionContext := false }
      queue := { backend := .memory .empty }
      uuids := ⟨fun n => ⟨n⟩, 0⟩
      host := ()
      now := now }
    let before : List (FleetMove Unit) :=
      [.launch (plan "app" 1), .launch (plan "web" 2), .launch (plan "web" 3),
        .perform 0 (.track (.foreground 1) 4)]
    let moves := before ++
      [.launch (plan "web" 5), .launch (plan "web" 6), .launch (plan "app" 7)]
    let third := (before.foldl Fleet.perform { settings := store }).settings
    "web" ≠ legacyScope ∧
      (Fleet.addedOver { settings := store } "web" moves).length = 1 ∧
      (Fleet.addedOver { settings := store } "app" moves).length = 0 ∧
      ((plan "web" 5).started third).LaunchesFirst 5 ∧
      ∃ tracker, (plan "web" 5).launch third = .ok tracker ∧
        (∃ row, tracker.rows = [row] ∧ Tracker.InstallRow true 5 row) ∧
        .install 5 ∈ tracker.world.resources.bus.published ∧
        tracker.world.resources.settings.backend.get ⟨"web", Tracker.installName⟩ =
          .ok (some (Tracker.installRecord 5)) := by
  intro store plan before moves third
  have named : "web" ≠ legacyScope := by decide
  have atMostOnce := (first_launch_is_stored_at_most_once store moves).1 "web" named
  have atLeastOnce : 0 < (Fleet.addedOver { settings := store } "web" moves).length := by
    decide +kernel
  have nothing : (Fleet.addedOver { settings := store } "app" moves).length = 0 := by decide +kernel
  refine ⟨named, Nat.le_antisymm atMostOnce atLeastOnce, nothing, ?_⟩
  have one : ((plan "web" 5).added third).length = 1 := by decide +kernel
  obtain ⟨row, isAdded⟩ := List.length_eq_one_iff.mp one
  have adds : (plan "web" 5).added third ≠ [] := by simp [isAdded]
  obtain ⟨tracker, launched, outcome⟩ :=
    (first_launch_is_stored_at_most_once third moves).2.1 (plan "web" 5) rfl
  obtain ⟨signals, published, reported⟩ := outcome.publishes
  have rows := outcome.rows
  rw [isAdded] at rows
  refine ⟨(outcome.adds.mp adds).2, tracker, launched, ⟨row, rows, ?_⟩, ?_,
    outcome.record adds ⟨by decide, by decide⟩⟩
  · exact outcome.holds row (by simp [isAdded])
  · rw [published]
    exact List.mem_append_left _ ((reported 5).mpr ⟨rfl, adds⟩)

end Telemetry

import Telemetry.Proofs.Tracker.Scopes
import Telemetry.Proofs.Tracker.Sharing

/-!
Contract: what trackers of other scopes do over a shared settings store leaves the records of a
scope, and so the next launch of it.

Owns:
- runs of trackers that are of other scopes, and the legacy records that their launches take;
- that of the records of a scope such a run changes none, but for what it takes of the legacy
  scope, where no session's record that a tracker has written is taken;
- that a launch of the scope comes to the same before and after the run.

Does not own: what a launch does with the records that it reads.
-/

namespace Telemetry

variable {η : Type} {shared : SettingsKey → Prop}

/-! ### Session records that trackers write -/

/-- The store holds a session's record as trackers of its scope write it. -/
structure SettingsBackend.HoldsSession (backend : SettingsBackend) (scope : String)
    (record : SessionRecord) : Prop where
  inRange : record.InRange
  isStored : backend.recordAt? (SessionRecord.settingsKey scope) =
    some (backend.stored record.toJson)

/-- Such a record is not one of the legacy layout: it names its session otherwise. -/
theorem Session.takesOver_toJson (uuids : UuidSource) (record : SessionRecord) :
    Session.takesOver uuids record.toJson = none := rfl

theorem SettingsBackend.HoldsSession.not_movable {backend : SettingsBackend}
    {record : SessionRecord} (holds : backend.HoldsSession legacyScope record) (scope : String)
    (uuids : UuidSource) (moved : Json) :
    ¬ backend.Movable (SessionRecord.settingsKey scope) (Session.takesOver uuids) moved := by
  rintro ⟨_, content, old, isStored, isValue, transforms⟩
  have isWritten : content = backend.stored record.toJson :=
    Option.some.inj (isStored.symm.trans holds.isStored)
  have comesBack : record.toJson.ComesBack :=
    Json.parse?_text (SessionRecord.legible_toJson holds.inRange)
  rw [isWritten, backend.value?_stored comesBack] at isValue
  obtain rfl := Option.some.inj isValue
  cases (Session.takesOver_toJson uuids record).symm.trans transforms

/-! ### Runs of other scopes -/

/-- The tracker writes no session record of the scope. -/
structure Tracker.IsApart (scope : String) (tracker : Tracker η) : Prop where
  knows : tracker.manager.Knows (World.Origin fun _ => True)
  session : ∀ key, tracker.world.sessionKey? = some key → key.scope ≠ scope

/-- No tracker of the scope is launched. -/
def FleetMove.IsApart (scope : String) : FleetMove η → Prop
  | .launch plan => plan.settings.scope ≠ scope
  | _ => True

namespace Fleet

/-- What is left after a series of moves. -/
def after (fleet : Fleet η) (moves : List (FleetMove η)) : Fleet η := moves.foldl perform fleet

def Apart (fleet : Fleet η) (scope : String) : Prop :=
  ∀ tracker ∈ fleet.trackers, tracker.IsApart scope

/-- The move takes the legacy record of a name. -/
def TakesBy (fleet : Fleet η) (name : String) : FleetMove η → Prop
  | .launch plan => plan.Takes fleet.settings name
  | _ => False

/-- A move of the run takes the legacy record of a name. -/
def Takes (fleet : Fleet η) (name : String) : List (FleetMove η) → Prop
  | [] => False
  | move :: rest => fleet.TakesBy name move ∨ (fleet.perform move).Takes name rest

variable {fleet : Fleet η} {scope : String} {move : FleetMove η} {moves : List (FleetMove η)}

theorem perform_launch_settings (fleet : Fleet η) (plan : LaunchPlan η) :
    (fleet.perform (.launch plan)).settings = plan.leaves fleet.settings := by
  rw [perform, LaunchPlan.leaves]
  cases plan.launch fleet.settings <;> rfl

/-! ### One move -/

/-- A tracker that acts on the shared store stays of its scope, and spares the records of
others. -/
theorem act_spares {index : Nat} {change : Tracker η → Tracker η} (apart : fleet.Apart scope)
    (own : ∀ key, shared key → key.scope = scope)
    (keeps : ∀ tracker : Tracker η, tracker.manager.Knows (World.Origin fun _ => True) →
      (change tracker).manager.Knows (World.Origin fun _ => True) ∧
        tracker.world.Spares shared (change tracker).world) :
    (fleet.act index change).Apart scope ∧
      fleet.settings.backend.AlikeOn shared (fleet.act index change).settings.backend := by
  unfold act
  split
  · exact ⟨apart, .self _⟩
  · next tracker found =>
    have isApart := apart tracker (List.mem_of_getElem? found)
    obtain ⟨knows, spares⟩ := keeps
      (tracker.withResources { tracker.world.resources with settings := fleet.settings })
      isApart.knows
    constructor
    · intro other member
      rcases List.mem_or_eq_of_mem_set member with old | rfl
      · exact apart other old
      · refine ⟨knows, ?_⟩
        rw [spares.sessionKey]
        exact isApart.session
    · exact spares.records fun key isKey isShared => isApart.session key isKey (own key isShared)

theorem launch_apart (apart : fleet.Apart scope) {plan : LaunchPlan η}
    (other : plan.settings.scope ≠ scope) : (fleet.perform (.launch plan)).Apart scope := by
  rw [perform]
  split
  · next tracker launched =>
    have sessionKey : tracker.world.sessionKey? =
        (plan.started fleet.settings).world.sessionKey? := by
      rw [LaunchPlan.launch_eq] at launched
      split at launched
      · obtain rfl := Except.ok.inj launched
        split
        · have spares : World.Spares (fun _ => False) _ _ :=
            Tracker.trackInstall_spares (plan.started_quiet fleet.settings) not_false plan.now
          exact spares.sessionKey
        · rfl
      · cases launched
    intro one member
    rcases List.mem_append.mp member with old | new
    · exact apart one old
    · rw [List.mem_singleton.mp new]
      refine ⟨Tracker.launch_knows launched, fun key isKey => ?_⟩
      rw [sessionKey] at isKey
      rw [plan.started_sessionKey fleet.settings key isKey]
      exact other
  · exact apart

theorem perform_spares (apart : fleet.Apart scope) (other : move.IsApart scope)
    (own : ∀ key, shared key → key.scope = scope)
    (spares : ∀ name, shared (.legacy name) → ¬ fleet.TakesBy name move) :
    (fleet.perform move).Apart scope ∧
      fleet.settings.backend.AlikeOn shared (fleet.perform move).settings.backend := by
  cases move with
  | launch plan =>
      refine ⟨launch_apart apart other, ?_⟩
      rw [perform_launch_settings]
      refine LaunchPlan.leaves_alikeOn (fun key isShared => ?_) spares
      rw [own key isShared]
      exact Ne.symm other
  | perform index move =>
      exact act_spares apart own fun tracker knows =>
        ⟨Tracker.perform_knows knows fun _ _ => trivial, Tracker.perform_spares knows move⟩
  | refill index queue =>
      exact act_spares apart own fun tracker knows =>
        ⟨knows, World.spares_of_backend rfl rfl⟩

theorem perform_apart (apart : fleet.Apart scope) (other : move.IsApart scope) :
    (fleet.perform move).Apart scope := by
  have nothing : ∀ key : SettingsKey, False → key.scope = scope := fun _ => False.elim
  exact (perform_spares apart other nothing fun _ => False.elim).1

/-! ### Runs -/

theorem after_spares (apart : fleet.Apart scope) (others : ∀ move ∈ moves, move.IsApart scope)
    (own : ∀ key, shared key → key.scope = scope)
    (spares : ∀ name, shared (.legacy name) → ¬ fleet.Takes name moves) :
    fleet.settings.backend.AlikeOn shared (fleet.after moves).settings.backend := by
  induction moves generalizing fleet with
  | nil => exact .self _
  | cons move rest inductionHypothesis =>
      obtain ⟨other, othersRest⟩ := List.forall_mem_cons.mp others
      obtain ⟨apartThen, first⟩ := perform_spares apart other own fun name isShared takes =>
        spares name isShared (.inl takes)
      exact first.trans (inductionHypothesis apartThen othersRest fun name isShared takes =>
        spares name isShared (.inr takes))

/-- A record of the scope that is not taken is as it was. -/
theorem after_record (apart : fleet.Apart scope) (others : ∀ move ∈ moves, move.IsApart scope)
    {name : String} (spared : scope = legacyScope → ¬ fleet.Takes name moves) :
    (fleet.after moves).settings.backend.recordAt? ⟨scope, name⟩ =
      fleet.settings.backend.recordAt? ⟨scope, name⟩ := by
  have alike : fleet.settings.backend.AlikeOn (· = ⟨scope, name⟩)
      (fleet.after moves).settings.backend := by
    refine after_spares apart others (fun key isRecord => congrArg SettingsKey.scope isRecord) ?_
    intro other isRecord
    obtain ⟨isLegacy, rfl⟩ := SettingsKey.mk.inj isRecord
    exact spared isLegacy.symm
  exact alike.records _ rfl

/-- A legacy record that a run takes is gone after it: nobody in the run writes it again. -/
theorem after_of_takes {name : String} (apart : fleet.Apart legacyScope)
    (others : ∀ move ∈ moves, move.IsApart legacyScope) (takes : fleet.Takes name moves) :
    (fleet.after moves).settings.backend.recordAt? (.legacy name) = none := by
  induction moves generalizing fleet with
  | nil => exact takes.elim
  | cons move rest inductionHypothesis =>
      obtain ⟨other, othersRest⟩ := List.forall_mem_cons.mp others
      have apartThen := perform_apart apart other
      -- From the last move that takes the record on, all others spare what is there: no record.
      by_cases takesLater : (fleet.perform move).Takes name rest
      · exact inductionHypothesis apartThen othersRest takesLater
      · have takesNow : fleet.TakesBy name move := takes.resolve_right takesLater
        have goneThen : (fleet.perform move).settings.backend.recordAt? (.legacy name) = none := by
          cases move with
          | launch plan =>
              rw [perform_launch_settings]
              exact LaunchPlan.leaves_of_takes other takesNow
          | perform index move => exact takesNow.elim
          | refill index queue => exact takesNow.elim
        exact (after_record apartThen othersRest fun _ => takesLater).trans goneThen

/-- No run takes a session's record that a tracker of the legacy scope has written. -/
theorem not_takes_session {record : SessionRecord} (apart : fleet.Apart legacyScope)
    (others : ∀ move ∈ moves, move.IsApart legacyScope)
    (holds : fleet.settings.backend.HoldsSession legacyScope record) :
    ¬ fleet.Takes SessionRecord.settingsName moves := by
  induction moves generalizing fleet with
  | nil => exact id
  | cons move rest inductionHypothesis =>
      obtain ⟨other, othersRest⟩ := List.forall_mem_cons.mp others
      have notNow : ¬ fleet.TakesBy SessionRecord.settingsName move := by
        cases move with
        | launch plan =>
            have isSession : ∀ name, plan.Takes fleet.settings name →
                name ≠ SessionRecord.settingsName := by
              rintro _ (⟨_, _, moved, movable⟩ | _)
              · exact absurd movable (holds.not_movable plan.settings.scope plan.uuids moved)
              · decide
            exact fun takes => isSession _ takes rfl
        | perform index move => exact id
        | refill index queue => exact id
      have spared : (fleet.perform move).Apart legacyScope ∧ fleet.settings.backend.AlikeOn
          (· = .legacy SessionRecord.settingsName) (fleet.perform move).settings.backend := by
        refine perform_spares apart other
          (fun key isRecord => congrArg SettingsKey.scope isRecord) ?_
        intro name isRecord
        obtain ⟨_, rfl⟩ := SettingsKey.mk.inj isRecord
        exact notNow
      obtain ⟨apartThen, alike⟩ := spared
      have holdsThen : (fleet.perform move).settings.backend.HoldsSession legacyScope record := by
        refine ⟨holds.inRange, ?_⟩
        rw [alike.stored]
        exact (alike.records _ rfl).trans holds.isStored
      rintro (takesNow | takesLater)
      · exact notNow takesNow
      · exact inductionHypothesis apartThen othersRest holdsThen takesLater

/-! ### Isolation -/

/-- A launch of a scope reads the same under a name before and after a run: the scope has a record
of its own outside of the legacy layout, or the legacy record is as it was. -/
def LeavesToRead (fleet : Fleet η) (moves : List (FleetMove η)) (scope name : String) : Prop :=
  scope ≠ legacyScope ∧ (fleet.settings.backend.recordAt? ⟨scope, name⟩).isSome ∨
    (fleet.after moves).settings.backend.recordAt? (.legacy name) =
      fleet.settings.backend.recordAt? (.legacy name)

/-- What a run leaves of a scope. -/
structure Isolates (fleet : Fleet η) (scope : String) (moves : List (FleetMove η)) : Prop where
  /-- A record of the scope is as it was, exactly unless the scope is the legacy one and a launch
  takes the record. -/
  records : ∀ name, (fleet.settings.backend.recordAt? ⟨scope, name⟩).isSome →
    ((fleet.after moves).settings.backend.recordAt? ⟨scope, name⟩ =
        fleet.settings.backend.recordAt? ⟨scope, name⟩ ↔
      ¬ (scope = legacyScope ∧ fleet.Takes name moves))
  /-- A session's record that a tracker of the scope has written is never taken. -/
  sessions : ∀ record, fleet.settings.backend.HoldsSession scope record →
    (fleet.after moves).settings.backend.HoldsSession scope record
  /-- A launch of the scope comes to the same before and after the run, with whatever outages. -/
  launches : ∀ (next : LaunchPlan η) (refuses : SettingsCall → Nat → Bool) (calls : Nat),
    next.settings.scope = scope →
      (∀ name, next.Consults name → fleet.LeavesToRead moves scope name) →
        next.SameLaunch (next.Reads fleet.settings.backend)
          ⟨fleet.settings.backend, refuses, calls⟩
          ⟨(fleet.after moves).settings.backend, refuses, calls⟩

section Isolation

variable (apart : fleet.Apart scope) (others : ∀ move ∈ moves, move.IsApart scope)

include apart others

theorem after_record_eq_iff {name : String}
    (present : (fleet.settings.backend.recordAt? ⟨scope, name⟩).isSome) :
    (fleet.after moves).settings.backend.recordAt? ⟨scope, name⟩ =
        fleet.settings.backend.recordAt? ⟨scope, name⟩ ↔
      ¬ (scope = legacyScope ∧ fleet.Takes name moves) := by
  constructor
  · rintro same ⟨rfl, takes⟩
    have gone := after_of_takes apart others takes
    rw [← same] at present
    exact absurd present (Option.not_isSome_iff_eq_none.mpr gone)
  · intro spared
    exact after_record apart others fun isLegacy takes => spared ⟨isLegacy, takes⟩

theorem after_holdsSession {record : SessionRecord}
    (holds : fleet.settings.backend.HoldsSession scope record) :
    (fleet.after moves).settings.backend.HoldsSession scope record := by
  have spared : scope = legacyScope → ¬ fleet.Takes SessionRecord.settingsName moves := by
    rintro rfl
    exact not_takes_session apart others holds
  have alike : fleet.settings.backend.AlikeOn (fun _ => False)
      (fleet.after moves).settings.backend :=
    after_spares apart others (fun _ => False.elim) fun _ => False.elim
  refine ⟨holds.inRange, ?_⟩
  rw [alike.stored]
  exact (after_record apart others spared).trans holds.isStored

/-- All that a launch of the scope reads is shared by the stores before and after the run. -/
theorem after_alikeOn_reads {next : LaunchPlan η} (isScope : next.settings.scope = scope)
    (leaves : ∀ name, next.Consults name → fleet.LeavesToRead moves scope name) :
    fleet.settings.backend.AlikeOn (next.Reads fleet.settings.backend)
      (fleet.after moves).settings.backend := by
  have alike : fleet.settings.backend.AlikeOn (fun _ => False)
      (fleet.after moves).settings.backend :=
    after_spares apart others (fun _ => False.elim) fun _ => False.elim
  refine ⟨alike.stored, alike.works, ?_⟩
  subst isScope
  rintro _ (⟨consults⟩ | ⟨consults, absent⟩)
  · by_cases isLegacy : next.settings.scope = legacyScope
    · rw [isLegacy]
      exact (leaves _ consults).resolve_left fun own => own.1 isLegacy
    · exact after_record apart others fun same => absurd same isLegacy
  · refine (leaves _ consults).resolve_left fun own => ?_
    rw [absent] at own
    cases own.2

/-- Whatever trackers of other scopes do over a shared store, with whichever calls failing, they
leave the records of a scope, but for legacy records that they take if the scope is the legacy
one. So a launch of the scope does not depend on them, if its scope has the records that it reads
or the legacy ones are as they were. -/
theorem isolates_of_apart : fleet.Isolates scope moves where
  records := fun _ present => after_record_eq_iff apart others present
  sessions := fun _ holds => after_holdsSession apart others holds
  launches := fun _ _ _ isScope leaves =>
    LaunchPlan.sameLaunch ⟨after_alikeOn_reads apart others isScope leaves, rfl, rfl⟩
      fun _ isRead => isRead

end Isolation

end Fleet

/-- One scope has a session and a first launch on record. Another one takes the legacy record of a
first launch and tracks an event; for the first scope nothing is different then. -/
theorem Fleet.web_is_isolated_from_app :
    let record : SessionRecord := { userId := "u1", sessionId := "s1", sessionIndex := 3 }
    let written : SettingsBackend := .table ⟨some [
      (.legacy Tracker.installName, "\x7b\"timestamp_ms\":1\x7d"),
      (⟨"web", Tracker.installName⟩, "\x7b\"timestamp_ms\":2\x7d"),
      (SessionRecord.settingsKey "web", record.toJson.text)]⟩
    let plan (scope : String) (now : Int) : LaunchPlan Unit := {
      settings := { scope := scope }
      queue := { backend := .memory .empty }
      uuids := ⟨fun n => ⟨n⟩, 0⟩
      host := ()
      now := now }
    let fleet : Fleet Unit := { settings := { backend := written } }
    let moves : List (FleetMove Unit) :=
      [.launch (plan "app" 3), .perform 0 (.track (.foreground 1) 4)]
    let used := (fleet.after moves).settings.backend
    fleet.Apart "web" ∧ (∀ move ∈ moves, move.IsApart "web") ∧
      used.recordAt? (.legacy Tracker.installName) = none ∧
      used.HoldsSession "web" record ∧
      used.recordAt? ⟨"web", Tracker.installName⟩ =
        written.recordAt? ⟨"web", Tracker.installName⟩ ∧
      (plan "web" 5).SameLaunch ((plan "web" 5).Reads written) ⟨written, fun _ _ => false, 0⟩
        ⟨used, fun _ _ => false, 0⟩ := by
  intro record written plan fleet moves used
  have apart : fleet.Apart "web" := fun _ member => absurd member List.not_mem_nil
  have others : ∀ move ∈ moves, move.IsApart "web" := by
    simp [moves, FleetMove.IsApart, plan]
  have named : "web" ≠ legacyScope := by decide
  have isolates := isolates_of_apart apart others
  refine ⟨apart, others, by decide +kernel, isolates.sessions record ⟨?_, rfl⟩, ?_, ?_⟩
  · exact ⟨by decide, by decide, by decide, by decide, fun _ member => nomatch member⟩
  · exact (isolates.records Tracker.installName rfl).mpr fun legacy => named legacy.1
  · refine isolates.launches (plan "web" 5) _ _ rfl ?_
    rintro _ (_ | _)
    · exact .inl ⟨named, rfl⟩
    · exact .inl ⟨named, rfl⟩

/-- A tracker of the legacy scope records its first launch. The launch of another scope takes the
record, so the next launch of the legacy scope is tracked as a first one again. -/
theorem Fleet.legacy_scope_is_not_isolated :
    let plan (scope : String) (now : Int) : LaunchPlan Unit := {
      settings := { scope := scope, sessionContext := false }
      queue := { backend := .memory .empty }
      uuids := ⟨fun n => ⟨n⟩, 0⟩
      host := ()
      now := now }
    let fleet : Fleet Unit := { settings := { backend := .memory .empty } }
    let written := (fleet.perform (.launch (plan legacyScope 1))).settings
    let used := (Fleet.perform { settings := written } (.launch (plan "app" 2))).settings
    written.backend.recordAt? ⟨legacyScope, Tracker.installName⟩ =
        some (.value (Tracker.installRecord 1)) ∧
      used.backend.recordAt? ⟨legacyScope, Tracker.installName⟩ = none ∧
      ((plan legacyScope 3).added written).length = 0 ∧
      ((plan legacyScope 3).added used).length = 1 := by
  decide +kernel

end Telemetry

import Mathlib.Data.List.Induction
import Mathlib.Data.List.Perm.Basic
import Telemetry.Tracker.Registry

/-!
Contract: which trackers a registry holds, and which of them is the default one.

Owns:
- what begins at one call of a history and lasts until another call ends it;
- the calls on a registry, what one call does to every registration and to the default, and
  which trackers it shuts down;
- from these, for every history: the trackers that stand, the default that is elected, and an
  account of all trackers that have arrived, of which those that were shut down are stopped.

Does not own: what a tracker does between the calls.
-/

namespace Telemetry

/-! ### Histories -/

section Histories

variable {α : Type} {begins ends happens : List α → α → Prop} {history : List α} {entry : α}

/-- An entry did something, given the history before it, and no later entry ended it. -/
def Lasts (begins ends : List α → α → Prop) (history : List α) : Prop :=
  ∃ past entry later, history = past ++ entry :: later ∧ begins past entry ∧
    ∀ middle other rest, later = middle ++ other :: rest → ¬ ends (past ++ entry :: middle) other

/-- An entry did something, given the history before it. -/
def Happens (happens : List α → α → Prop) (history : List α) : Prop :=
  ∃ past entry later, history = past ++ entry :: later ∧ happens past entry

theorem concat_eq_append_cons_iff {past later : List α} {other : α} :
    history ++ [entry] = past ++ other :: later ↔
      (history = past ∧ entry = other ∧ later = []) ∨
        ∃ rest, later = rest ++ [entry] ∧ history = past ++ other :: rest := by
  constructor
  · intro same
    obtain rfl | ⟨rest, last, rfl⟩ := later.eq_nil_or_concat'
    · obtain ⟨sameFront, sameLast⟩ := List.append_inj' same rfl
      exact .inl ⟨sameFront, List.singleton_inj.mp sameLast, rfl⟩
    · rw [← List.cons_append, ← List.append_assoc] at same
      obtain ⟨sameFront, sameLast⟩ := List.append_inj' same rfl
      exact .inr ⟨rest, by rw [sameLast], sameFront⟩
  · rintro (⟨rfl, rfl, rfl⟩ | ⟨rest, rfl, rfl⟩)
    · rfl
    · rw [List.append_assoc, List.cons_append]

theorem lasts_concat_iff :
    Lasts begins ends (history ++ [entry]) ↔
      begins history entry ∨ Lasts begins ends history ∧ ¬ ends history entry := by
  constructor
  · rintro ⟨past, first, later, parts, begun, since⟩
    rcases concat_eq_append_cons_iff.mp parts with ⟨rfl, rfl, rfl⟩ | ⟨rest, rfl, rfl⟩
    · exact .inl begun
    · refine .inr ⟨⟨past, first, rest, rfl, begun, ?_⟩, since rest entry [] rfl⟩
      rintro middle other behind rfl
      exact since middle other (behind ++ [entry]) (by simp)
  · rintro (begun | ⟨⟨past, first, later, rfl, begun, since⟩, stays⟩)
    · exact ⟨history, entry, [], rfl, begun, by simp⟩
    · refine ⟨past, first, later ++ [entry], by simp, begun, ?_⟩
      intro middle other rest parts
      rcases concat_eq_append_cons_iff.mp parts with ⟨rfl, rfl, rfl⟩ | ⟨behind, rfl, rfl⟩
      · exact stays
      · exact since middle other behind rfl

theorem not_lasts_nil : ¬ Lasts begins ends [] := by
  rintro ⟨past, first, later, parts, _⟩
  simp at parts

theorem happens_concat_iff :
    Happens happens (history ++ [entry]) ↔ Happens happens history ∨ happens history entry := by
  constructor
  · rintro ⟨past, first, later, parts, happened⟩
    rcases concat_eq_append_cons_iff.mp parts with ⟨rfl, rfl, rfl⟩ | ⟨rest, rfl, rfl⟩
    · exact .inr happened
    · exact .inl ⟨past, first, rest, rfl, happened⟩
  · rintro (⟨past, first, later, rfl, happened⟩ | happened)
    · exact ⟨past, first, later ++ [entry], by simp, happened⟩
    · exact ⟨history, entry, [], rfl, happened⟩

theorem not_happens_nil : ¬ Happens happens [] := by
  rintro ⟨past, first, later, parts, _⟩
  simp at parts

end Histories

/-! ### Calls -/

/-- A call on a registry. What is opened for a tracker that is created comes with the call. -/
inductive RegistryCall (η : Type) where
  | create (configuration : Configuration) (opened : Except String (Tracker.Parts η))
      (inRuntime : Bool) (now : Int)
  | insert (tracker : Tracker η)
  | get (scope : String)
  | defaultTracker
  | setDefault (scope : String)
  | remove (scope : String)
  | removeAll

variable {η : Type}

namespace RegistryCall

/-- The tracker that a call brings. -/
def arrival? : RegistryCall η → Option (Tracker η)
  | .create configuration opened inRuntime now =>
    (Tracker.ofConfiguration configuration opened inRuntime now).toOption
  | .insert tracker => some tracker
  | _ => none

/-- The call replaces or removes the tracker of the scope. -/
def Ends (call : RegistryCall η) (scope : String) : Prop :=
  (∃ tracker, call.arrival? = some tracker ∧ tracker.settings.scope = scope) ∨
    call = .remove scope ∨ call = .removeAll

theorem ends_of_arrival {call : RegistryCall η} {tracker : Tracker η}
    (arrives : call.arrival? = some tracker) (scope : String) :
    call.Ends scope ↔ tracker.settings.scope = scope := by
  constructor
  · rintro (⟨other, arrivesToo, named⟩ | rfl | rfl)
    · rw [Option.some.inj (arrives.symm.trans arrivesToo)]
      exact named
    · cases arrives
    · cases arrives
  · exact fun named => .inl ⟨tracker, arrives, named⟩

theorem ends_of_none {call : RegistryCall η} (none : call.arrival? = none) (scope : String) :
    call.Ends scope ↔ call = .remove scope ∨ call = .removeAll := by
  simp [Ends, none]

/-- The call answers that it did not do what it was to do. -/
def FailsOn (call : RegistryCall η) (registry : Registry η) : Prop :=
  match call with
  | .create configuration opened inRuntime now =>
    ∃ cause, (registry.create configuration opened inRuntime now).1 = .error cause
  | .setDefault scope => (registry.setDefault scope).1 = false
  | .remove scope => (registry.remove scope).1 = none
  | _ => False

end RegistryCall

namespace Registry

/-- The trackers that a call shuts down, and the registry that it leaves. -/
def call (registry : Registry η) : RegistryCall η → List (Tracker η) × Registry η
  | .create configuration opened inRuntime now =>
    match registry.create configuration opened inRuntime now with
    | (.ok (_, replaced), after) => (replaced.toList, after)
    | (.error _, after) => ([], after)
  | .insert tracker =>
    let (replaced, after) := registry.insert tracker
    (replaced.toList, after)
  | .get _ => ([], registry)
  | .defaultTracker => ([], registry)
  | .setDefault scope => ([], (registry.setDefault scope).2)
  | .remove scope =>
    let (removed, after) := registry.remove scope
    (removed.toList, after)
  | .removeAll => registry.removeAll

/-- The trackers that were shut down over calls on a new registry, and what it is after
them. -/
def run (calls : List (RegistryCall η)) : List (Tracker η) × Registry η :=
  calls.foldl
    (fun (gone, registry) call =>
      let (ended, after) := registry.call call
      (gone ++ ended, after))
    ([], {})

def after (calls : List (RegistryCall η)) : Registry η := (run calls).2

variable {registry : Registry η} {call : RegistryCall η} {calls : List (RegistryCall η)}
  {tracker : Tracker η} {scope : String}

theorem run_concat (calls : List (RegistryCall η)) (call : RegistryCall η) :
    run (calls ++ [call]) =
      ((run calls).1 ++ ((after calls).call call).1, ((after calls).call call).2) := by
  rw [run, List.foldl_append]
  rfl

theorem after_concat (calls : List (RegistryCall η)) (call : RegistryCall η) :
    after (calls ++ [call]) = ((after calls).call call).2 := by
  rw [after, run_concat]

/-! ### One call -/

/-- Whether it was created before or is created now, a tracker that a call brings is inserted. -/
theorem call_of_arrival (arrives : call.arrival? = some tracker) (registry : Registry η) :
    registry.call call = ((registry.insert tracker).1.toList, (registry.insert tracker).2) := by
  cases call with
  | create configuration opened inRuntime now =>
      rw [RegistryCall.arrival?] at arrives
      cases created : Tracker.ofConfiguration configuration opened inRuntime now with
      | error cause =>
          rw [created] at arrives
          cases arrives
      | ok newcomer =>
          rw [created] at arrives
          obtain rfl := Option.some.inj arrives
          rw [Registry.call, create, created]
  | insert newcomer =>
      obtain rfl := Option.some.inj arrives
      rfl
  | _ => cases arrives

/-- A call that creates no tracker leaves the registry. -/
theorem call_of_failed_create {configuration : Configuration}
    {opened : Except String (Tracker.Parts η)} {inRuntime : Bool} {now : Int}
    (none : (RegistryCall.create configuration opened inRuntime now).arrival? = none)
    (registry : Registry η) :
    registry.call (.create configuration opened inRuntime now) = ([], registry) := by
  rw [RegistryCall.arrival?] at none
  cases created : Tracker.ofConfiguration configuration opened inRuntime now with
  | error cause => rw [Registry.call, create, created]
  | ok newcomer =>
      rw [created] at none
      cases none

theorem get?_insert (registry : Registry η) (tracker : Tracker η) (scope : String) :
    (registry.insert tracker).2.get? scope =
      if tracker.settings.scope = scope then some tracker else registry.get? scope :=
  Entries.get?_insert _ _ _ _

theorem get?_remove (registry : Registry η) (removed scope : String) :
    (registry.remove removed).2.get? scope =
      if removed = scope then none else registry.get? scope := by
  unfold remove
  split
  · next absent =>
    split
    · next same => exact same ▸ absent
    · rfl
  · exact Entries.get?_erase _ _ _

theorem setDefault_get? (registry : Registry η) (chosen scope : String) :
    (registry.setDefault chosen).2.get? scope = registry.get? scope := by
  unfold setDefault
  split <;> rfl

/-- What stands after a call: what it brings, and what stood and was not ended. -/
theorem get?_call_iff :
    (registry.call call).2.get? scope = some tracker ↔
      (call.arrival? = some tracker ∧ tracker.settings.scope = scope) ∨
        registry.get? scope = some tracker ∧ ¬ call.Ends scope := by
  cases arrives : call.arrival? with
  | some newcomer =>
      rw [call_of_arrival arrives, get?_insert, RegistryCall.ends_of_arrival arrives]
      split
      · next here => grind
      · next elsewhere => grind
  | none =>
      rw [RegistryCall.ends_of_none arrives]
      cases call with
      | create configuration opened inRuntime now => simp [call_of_failed_create arrives]
      | insert newcomer => cases arrives
      | get asked => simp [Registry.call]
      | defaultTracker => simp [Registry.call]
      | setDefault chosen => simp [Registry.call, setDefault_get?]
      | remove removed =>
          simp only [Registry.call, get?_remove]
          grind
      | removeAll => simp [Registry.call, removeAll, get?]

/-- A call shuts down what stood and is ended by it. -/
theorem mem_call_iff (ordered : registry.trackers.Ordered) :
    tracker ∈ (registry.call call).1 ↔
      ∃ scope source, registry.get? scope = some source ∧ call.Ends scope ∧
        tracker = source.shutdown := by
  cases arrives : call.arrival? with
  | some newcomer =>
      simp only [call_of_arrival arrives, RegistryCall.ends_of_arrival arrives, insert,
        Option.mem_toList, Option.map_eq_some_iff]
      grind
  | none =>
      simp only [RegistryCall.ends_of_none arrives]
      cases call with
      | create configuration opened inRuntime now => simp [call_of_failed_create arrives]
      | insert newcomer => cases arrives
      | get asked => simp [Registry.call]
      | defaultTracker => simp [Registry.call]
      | setDefault chosen => simp [Registry.call]
      | remove removed =>
          simp only [Registry.call, remove]
          cases stood : registry.get? removed with
          | none => grind
          | some source => grind
      | removeAll =>
          have stands : ∀ scope source, (scope, source) ∈ registry.trackers ↔
              registry.get? scope = some source := fun scope source =>
            Entries.mem_iff_get? ordered
          simp only [Registry.call, removeAll, List.mem_map, Prod.exists, stands, or_true,
            true_and, eq_comm]

theorem ordered_call (ordered : registry.trackers.Ordered) (call : RegistryCall η) :
    (registry.call call).2.trackers.Ordered := by
  cases arrives : call.arrival? with
  | some newcomer =>
      rw [call_of_arrival arrives]
      exact Entries.ordered_insert ordered _ _
  | none =>
      cases call with
      | create configuration opened inRuntime now =>
          rw [call_of_failed_create arrives]
          exact ordered
      | insert newcomer => cases arrives
      | get asked => exact ordered
      | defaultTracker => exact ordered
      | setDefault chosen =>
          simp only [Registry.call, setDefault]
          split <;> exact ordered
      | remove removed =>
          simp only [Registry.call, remove]
          split
          · exact ordered
          · exact Entries.ordered_erase ordered _
      | removeAll => exact Entries.ordered_nil

/-- The trackers of a registry as they are when they are shut down. -/
def shut (registry : Registry η) : List (Tracker η) :=
  registry.trackers.map fun entry => entry.2.shutdown

/-- Of the trackers that stood and the one that a call brings, each is shut down by the call or
stands after it. -/
theorem call_perm (ordered : registry.trackers.Ordered) (call : RegistryCall η) :
    ((registry.call call).1 ++ (registry.call call).2.shut).Perm
      (registry.shut ++ (call.arrival?.map Tracker.shutdown).toList) := by
  have parts : ∀ scope, registry.shut.Perm
      (((registry.get? scope).map Tracker.shutdown).toList ++
        (registry.trackers.erase scope).map fun entry => entry.2.shutdown) := by
    intro scope
    refine ((Entries.perm_erase ordered scope).map _).trans (.of_eq ?_)
    rw [List.map_append, get?]
    cases registry.trackers.get? scope <;> rfl
  cases arrives : call.arrival? with
  | some newcomer =>
      have added := (Entries.insert_perm ordered newcomer.settings.scope newcomer).map
        fun entry => entry.2.shutdown
      rw [call_of_arrival arrives]
      refine ((added.append_left _).trans ?_).trans
        ((parts newcomer.settings.scope).symm.append_right _)
      rw [List.append_assoc]
      exact (List.perm_append_singleton _ _).symm.append_left _
  | none =>
      rw [Option.map_none, Option.toList_none, List.append_nil]
      cases call with
      | create configuration opened inRuntime now => rw [call_of_failed_create arrives]; rfl
      | insert newcomer => cases arrives
      | get asked => exact .refl _
      | defaultTracker => exact .refl _
      | setDefault chosen =>
          simp only [Registry.call, setDefault]
          split <;> exact .refl _
      | remove removed =>
          have gone := parts removed
          simp only [Registry.call, remove]
          split
          · exact .refl _
          · next source stood =>
            rw [stood] at gone
            exact gone.symm
      | removeAll => exact .of_eq (List.append_nil _)

/-- The call makes the scope the default one: it is chosen, and has a tracker, or its tracker
arrives where there is no default. -/
def Elects (registry : Registry η) (call : RegistryCall η) (scope : String) : Prop :=
  (call = .setDefault scope ∧ (registry.get? scope).isSome) ∨
    (∃ tracker, call.arrival? = some tracker ∧ tracker.settings.scope = scope) ∧
      registry.default = none

/-- The call takes the place of the default one from the scope: its tracker is removed, or
another scope is chosen that has a tracker. -/
def Unseats (registry : Registry η) (call : RegistryCall η) (scope : String) : Prop :=
  call = .remove scope ∨ call = .removeAll ∨
    ∃ other, other ≠ scope ∧ call = .setDefault other ∧ (registry.get? other).isSome

/-- The default one is registered. -/
def DefaultStands (registry : Registry η) : Prop :=
  ∀ scope, registry.default = some scope → ∃ tracker, registry.get? scope = some tracker

theorem default_call_iff (standing : registry.DefaultStands) :
    (registry.call call).2.default = some scope ↔
      registry.Elects call scope ∨
        registry.default = some scope ∧ ¬ registry.Unseats call scope := by
  cases arrives : call.arrival? with
  | some newcomer =>
      have notChosen : ∀ chosen, call ≠ .setDefault chosen := by
        rintro chosen rfl
        cases arrives
      have notRemoved : ¬ (call = .remove scope ∨ call = .removeAll) := by
        rintro (rfl | rfl) <;> cases arrives
      rw [call_of_arrival arrives]
      simp only [insert, Elects, Unseats, arrives, notChosen]
      cases registry.default <;> grind
  | none =>
      simp only [Elects, Unseats, arrives]
      cases call with
      | create configuration opened inRuntime now => simp [call_of_failed_create arrives]
      | insert newcomer => cases arrives
      | get asked => simp [Registry.call]
      | defaultTracker => simp [Registry.call]
      | setDefault chosen =>
          simp only [Registry.call, setDefault, Entries.contains, get?]
          grind
      | remove removed =>
          have stood := standing removed
          simp only [Registry.call, remove]
          grind
      | removeAll => simp [Registry.call, removeAll]

theorem defaultStands_call (standing : registry.DefaultStands) (call : RegistryCall η) :
    (registry.call call).2.DefaultStands := by
  intro scope isDefault
  simp only [get?_call_iff]
  rcases (default_call_iff standing).mp isDefault with elected | ⟨wasDefault, stays⟩
  · rcases elected with ⟨rfl, registered⟩ | ⟨⟨newcomer, arrives, named⟩, _⟩
    · obtain ⟨tracker, stood⟩ := Option.isSome_iff_exists.mp registered
      refine ⟨tracker, .inr ⟨stood, ?_⟩⟩
      simp [RegistryCall.Ends, RegistryCall.arrival?]
    · exact ⟨newcomer, .inl ⟨arrives, named⟩⟩
  · obtain ⟨tracker, stood⟩ := standing scope wasDefault
    by_cases ended : call.Ends scope
    · rcases ended with ⟨newcomer, arrives, named⟩ | removes
      · exact ⟨newcomer, .inl ⟨arrives, named⟩⟩
      · exact absurd (removes.imp_right .inl) stays
    · exact ⟨tracker, .inr ⟨stood, ended⟩⟩

/-! ### Histories of calls -/

/-- The tracker was brought by a call, and no later call replaced or removed it. -/
def Stands (calls : List (RegistryCall η)) (tracker : Tracker η) : Prop :=
  Lasts (fun _ call => call.arrival? = some tracker)
    (fun _ call => call.Ends tracker.settings.scope) calls

/-- A call replaced or removed the tracker while it stood. -/
def WasEnded (calls : List (RegistryCall η)) (tracker : Tracker η) : Prop :=
  Happens (fun past call => Stands past tracker ∧ call.Ends tracker.settings.scope) calls

/-- Some tracker of the scope stands. -/
def Registered (calls : List (RegistryCall η)) (scope : String) : Prop :=
  ∃ tracker, Stands calls tracker ∧ tracker.settings.scope = scope

/-- The scope was chosen while it was registered, or its tracker arrived where there was no
default; since then its tracker was not removed, and no other registered scope was chosen. -/
def Elected (calls : List (RegistryCall η)) (scope : String) : Prop :=
  Lasts
    (fun past call =>
      (call = .setDefault scope ∧ Registered past scope) ∨
        (∃ tracker, call.arrival? = some tracker ∧ tracker.settings.scope = scope) ∧
          (after past).default = none)
    (fun past call =>
      call = .remove scope ∨ call = .removeAll ∨
        ∃ other, other ≠ scope ∧ call = .setDefault other ∧ Registered past other)
    calls

/-- All trackers that were brought. -/
def arrivals (calls : List (RegistryCall η)) : List (Tracker η) :=
  calls.filterMap RegistryCall.arrival?

theorem stands_concat_iff :
    Stands (calls ++ [call]) tracker ↔
      call.arrival? = some tracker ∨
        Stands calls tracker ∧ ¬ call.Ends tracker.settings.scope :=
  lasts_concat_iff

/-- A tracker stands if no call after the one that brought it ends its scope. -/
theorem stands_of_arrival (past : List (RegistryCall η)) (call : RegistryCall η)
    {later : List (RegistryCall η)}
    (arrives : call.arrival? = some tracker)
    (since : ∀ other ∈ later, ¬ other.Ends tracker.settings.scope) :
    Stands (past ++ call :: later) tracker := by
  refine ⟨past, call, later, rfl, arrives, ?_⟩
  rintro middle other rest rfl
  exact since other (by simp)

theorem wasEnded_concat_iff :
    WasEnded (calls ++ [call]) tracker ↔
      WasEnded calls tracker ∨ Stands calls tracker ∧ call.Ends tracker.settings.scope :=
  happens_concat_iff

theorem elected_concat_iff :
    Elected (calls ++ [call]) scope ↔
      ((call = .setDefault scope ∧ Registered calls scope) ∨
        (∃ tracker, call.arrival? = some tracker ∧ tracker.settings.scope = scope) ∧
          (after calls).default = none) ∨
      Elected calls scope ∧
        ¬ (call = .remove scope ∨ call = .removeAll ∨
          ∃ other, other ≠ scope ∧ call = .setDefault other ∧ Registered calls other) :=
  lasts_concat_iff

theorem ordered_after (calls : List (RegistryCall η)) : (after calls).trackers.Ordered := by
  induction calls using List.reverseRecOn with
  | nil => exact Entries.ordered_nil
  | append_singleton calls call inductionHypothesis =>
      rw [after_concat]
      exact ordered_call inductionHypothesis call

theorem get?_after_iff :
    (after calls).get? scope = some tracker ↔
      tracker.settings.scope = scope ∧ Stands calls tracker := by
  induction calls using List.reverseRecOn with
  | nil => simp [after, run, get?, Stands, not_lasts_nil]
  | append_singleton calls call inductionHypothesis =>
      rw [after_concat, get?_call_iff, inductionHypothesis, stands_concat_iff]
      grind

theorem registered_iff (calls : List (RegistryCall η)) (scope : String) :
    Registered calls scope ↔ ((after calls).get? scope).isSome := by
  simp only [Registered, Option.isSome_iff_exists, get?_after_iff, and_comm]

theorem mem_gone_iff :
    tracker ∈ (run calls).1 ↔ ∃ source, WasEnded calls source ∧ tracker = source.shutdown := by
  induction calls using List.reverseRecOn with
  | nil => simp [run, WasEnded, not_happens_nil]
  | append_singleton calls call inductionHypothesis =>
      rw [run_concat, List.mem_append, inductionHypothesis, mem_call_iff (ordered_after calls)]
      simp only [wasEnded_concat_iff, get?_after_iff]
      grind

theorem run_perm (calls : List (RegistryCall η)) :
    ((run calls).1 ++ (after calls).shut).Perm ((arrivals calls).map Tracker.shutdown) := by
  induction calls using List.reverseRecOn with
  | nil => exact .refl _
  | append_singleton calls call inductionHypothesis =>
      have step := call_perm (ordered_after calls) call
      rw [run_concat, after_concat, List.append_assoc, arrivals, List.filterMap_append,
        List.map_append]
      refine (step.append_left _).trans ?_
      rw [← List.append_assoc]
      refine inductionHypothesis.append (.of_eq ?_)
      cases arrives : call.arrival? <;> simp [arrives]

theorem defaultStands_after (calls : List (RegistryCall η)) : (after calls).DefaultStands := by
  induction calls using List.reverseRecOn with
  | nil => exact nofun
  | append_singleton calls call inductionHypothesis =>
      rw [after_concat]
      exact defaultStands_call inductionHypothesis call

theorem default_after_iff (calls : List (RegistryCall η)) (scope : String) :
    (after calls).default = some scope ↔ Elected calls scope := by
  induction calls using List.reverseRecOn with
  | nil => simp [after, run, Elected, not_lasts_nil]
  | append_singleton calls call inductionHypothesis =>
      rw [after_concat, default_call_iff (defaultStands_after calls), inductionHypothesis,
        elected_concat_iff]
      simp only [Elects, Unseats, registered_iff]

theorem call_of_failsOn (fails : call.FailsOn registry) : registry.call call = ([], registry) := by
  cases call with
  | create configuration opened inRuntime now =>
      obtain ⟨cause, refused⟩ := fails
      refine call_of_failed_create ?_ registry
      rw [create] at refused
      rw [RegistryCall.arrival?]
      split at refused
      · next created => rw [created]; rfl
      · cases refused
  | setDefault chosen =>
      rw [RegistryCall.FailsOn, setDefault] at fails
      rw [Registry.call, setDefault]
      split at fails
      · cases fails
      · next absent => rw [if_neg absent]
  | remove removed =>
      rw [RegistryCall.FailsOn, remove] at fails
      rw [Registry.call, remove]
      split at fails
      · rfl
      · cases fails
  | _ => cases fails

/-- What every history of calls makes of a new registry. -/
structure Accounted (calls : List (RegistryCall η)) : Prop where
  registered : ∀ scope tracker, (after calls).get? scope = some tracker ↔
    tracker.settings.scope = scope ∧ Stands calls tracker
  default : ∀ scope, (after calls).default = some scope ↔ Elected calls scope
  defaultTracker : ∀ scope, (after calls).default = some scope →
    ∃ tracker, (after calls).defaultTracker? = some tracker ∧ tracker.settings.scope = scope
  shutDown : ∀ tracker, tracker ∈ (run calls).1 ↔
    ∃ source, WasEnded calls source ∧ tracker = source.shutdown
  stopped : ∀ tracker ∈ (run calls).1, tracker.loop.isAlive = false
  otherwiseSame : ∀ tracker ∈ (run calls).1,
    ∃ source, WasEnded calls source ∧ { tracker with loop := source.loop } = source
  once : ((run calls).1 ++ (after calls).shut).Perm ((arrivals calls).map Tracker.shutdown)
  failed : ∀ call : RegistryCall η, call.FailsOn (after calls) →
    (after calls).call call = ([], after calls)

/-- After any calls the trackers that stand are registered under their scopes, as they were
brought; the default is the scope that was elected, and has a tracker; the trackers that were
replaced or removed are shut down, each once, and no others: their loops are stopped, and all
else of them is as it was; and a call that fails changes nothing. -/
theorem runs_are_accounted (calls : List (RegistryCall η)) : Accounted calls := by
  constructor
  case registered => exact fun scope tracker => get?_after_iff
  case default => exact default_after_iff calls
  case defaultTracker =>
    intro scope isDefault
    obtain ⟨tracker, registered⟩ := defaultStands_after calls scope isDefault
    refine ⟨tracker, ?_, (get?_after_iff.mp registered).1⟩
    rw [defaultTracker?, isDefault]
    exact registered
  case shutDown => exact fun tracker => mem_gone_iff
  case stopped =>
    intro tracker gone
    obtain ⟨source, _, rfl⟩ := mem_gone_iff.mp gone
    exact source.isAlive_shutdown
  case otherwiseSame =>
    intro tracker gone
    obtain ⟨source, ended, rfl⟩ := mem_gone_iff.mp gone
    exact ⟨source, ended, source.shutdown_frame⟩
  case once => exact run_perm calls
  case failed => exact fun call fails => call_of_failsOn fails

/-- Of two trackers that run, the first one is replaced, and the second one, which was chosen, is
removed. Another one that is inserted then becomes the default, though the replacing one stands. -/
theorem replaced_and_removed_trackers_are_stopped :
    let launched (scope appId : String) : Tracker Unit := {
      settings := { scope, appId }
      manager := {}
      world := {
        resources := ⟨{ backend := .memory .empty }, .standard, ⟨fun n => ⟨n⟩, 0⟩⟩
        host := () }
      outbox := .ofQueue { backend := .memory .empty } {}
      loop := { phase := .starting } }
    let shop := launched "shop" "old"
    let news := launched "news" "only"
    let renewed := launched "shop" "new"
    let mail := launched "mail" "only"
    let calls : List (RegistryCall Unit) :=
      [.insert shop, .insert news, .setDefault "news", .insert renewed, .remove "mail",
        .remove "news", .insert mail]
    (∀ tracker ∈ [shop, news, renewed, mail], tracker.loop.isAlive = true) ∧
      (∀ source ∈ [shop, news], ∃ tracker ∈ (run calls).1,
        tracker.loop.isAlive = false ∧ { tracker with loop := source.loop } = source) ∧
      (run calls).1.length = 2 ∧
      (after calls).get? "shop" = some renewed ∧
      (after calls).default = some "mail" ∧
      (after calls).call (.setDefault "news") = ([], after calls) := by
  intro launched shop news renewed mail calls
  have accounted := runs_are_accounted calls
  refine ⟨by decide +kernel, ?sources, by decide +kernel, ?shop, ?mail, ?fails⟩
  case sources =>
    have shopEnded : WasEnded calls shop := by
      refine ⟨[.insert shop, .insert news, .setDefault "news"], .insert renewed, _, rfl, ?_,
        .inl ⟨renewed, rfl, rfl⟩⟩
      refine stands_of_arrival [] (.insert shop) rfl ?_
      simp [RegistryCall.Ends, RegistryCall.arrival?, shop, news, launched]
    have newsEnded : WasEnded calls news := by
      refine ⟨[.insert shop, .insert news, .setDefault "news", .insert renewed, .remove "mail"],
        .remove "news", _, rfl, ?_, .inr (.inl rfl)⟩
      refine stands_of_arrival [.insert shop] (.insert news) rfl ?_
      simp [RegistryCall.Ends, RegistryCall.arrival?, news, renewed, launched]
    intro source member
    have ended : WasEnded calls source := by
      rcases List.mem_pair.mp member with rfl | rfl
      · exact shopEnded
      · exact newsEnded
    have gone := (accounted.shutDown _).mpr ⟨source, ended, rfl⟩
    exact ⟨_, gone, accounted.stopped _ gone, source.shutdown_frame⟩
  case shop =>
    refine (accounted.registered _ _).mpr ⟨rfl, ?_⟩
    refine stands_of_arrival [.insert shop, .insert news, .setDefault "news"]
      (.insert renewed) rfl ?_
    simp [RegistryCall.Ends, RegistryCall.arrival?, renewed, mail, launched]
  case mail =>
    refine (accounted.default _).mpr ⟨[.insert shop, .insert news, .setDefault "news",
      .insert renewed, .remove "mail", .remove "news"], .insert mail, [], rfl, ?_, by simp⟩
    exact .inr ⟨⟨mail, rfl, rfl⟩, by decide +kernel⟩
  case fails =>
    have refused : ((after calls).setDefault "news").1 = false := by decide +kernel
    exact accounted.failed (.setDefault "news") refused

end Registry

end Telemetry

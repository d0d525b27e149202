import Mathlib.Data.List.GetD
import Telemetry.State.Manager

/-!
Contract: what the versions of a manager are computed to, whenever they are read.

Owns:
- the values of versions, which are fixed as soon as the versions are there;
- that settling a version answers its value, and keeps the values of all;
- that noting an event adds the values of the machines that follow it.

Does not own: registration, and the history of a manager.

Versions are computed in an order that depends on the reads. The values do not depend on
it if no machine looks at the world.
-/

namespace Telemetry

namespace Machine

variable {ω : Type} {machine : Machine ω}

/-- The state after an event. Without an answer the state before stays. -/
def next (machine : Machine ω) (world : ω) (event : ObservedEvent)
    (before : Option MachineState) : Option MachineState :=
  (machine.transition event before world).1.or before

/-- The state after an event that the machine may not follow. -/
def follow (machine : Machine ω) (world : ω) (event : ObservedEvent)
    (before : Option MachineState) : Option MachineState :=
  if machine.subscriptions.transitions.selects event.identifier then
    machine.next world event before
  else
    before

theorem IgnoresWorld.next_eq (ignores : machine.IgnoresWorld) (world other : ω)
    (event : ObservedEvent) (before : Option MachineState) :
    machine.next world event before = machine.next other event before := by
  rw [next, next, ignores event before world other]

end Machine

/-! ### Values of versions -/

/-- The value of a version, if there is one. -/
def stateAt (values : List (Option MachineState)) (id : Option VersionId) :
    Option MachineState :=
  id.bind fun id => values.getD id none

/-- More versions change no value. -/
theorem stateAt_append (values more : List (Option MachineState)) {id : Option VersionId}
    (present : ∀ number ∈ id, number < values.length) :
    stateAt (values ++ more) id = stateAt values id := by
  cases id with
  | none => rfl
  | some number => exact List.getD_append values more none number (present number rfl)

variable {ω : Type}

/-- The values that versions have or will be computed to. A due version comes from a
version before it, by a machine that does not look at the world. -/
structure Settles (versions : Array (Version ω)) (values : List (Option MachineState)) :
    Prop where
  size : versions.size = values.length
  settled : ∀ {id : VersionId} {state : Option MachineState},
    versions[id]? = some (.settled state) → values[id]? = some state
  due : ∀ {id : VersionId} {event : ObservedEvent} {previous : Option VersionId}
    {machine : Machine ω}, versions[id]? = some (.due event previous machine) →
      machine.IgnoresWorld ∧ (∀ before ∈ previous, before < id) ∧
        ∀ world, values[id]? = some (machine.next world event (stateAt values previous))

namespace Settles

variable {versions : Array (Version ω)} {values : List (Option MachineState)}

theorem empty : Settles (#[] : Array (Version ω)) [] := ⟨rfl, nofun, nofun⟩

/-- A version may be replaced by its value. -/
theorem settle (settles : Settles versions values) {id : VersionId}
    {state : Option MachineState} (isValue : values[id]? = some state) :
    Settles (versions.setIfInBounds id (.settled state)) values where
  size := by rw [Array.size_setIfInBounds, settles.size]
  settled := by
    intro other found
    rw [Array.getElem?_setIfInBounds]
    split
    · next same =>
      subst same
      split
      · intro isFound
        cases isFound
        exact isValue
      · exact nofun
    · exact settles.settled
  due := by
    intro other event previous machine
    rw [Array.getElem?_setIfInBounds]
    split
    · split
      · exact nofun
      · exact nofun
    · exact settles.due

/-- A version that is due comes after all others. -/
theorem push (settles : Settles versions values) {event : ObservedEvent}
    {previous : Option VersionId} {machine : Machine ω} (ignores : machine.IgnoresWorld)
    (present : ∀ before ∈ previous, before < values.length) (world : ω) :
    Settles (versions.push (.due event previous machine))
      (values ++ [machine.next world event (stateAt values previous)]) where
  size := by rw [Array.size_push, settles.size, List.length_append, List.length_singleton]
  settled := by
    intro id state
    rw [Array.getElem?_push]
    split
    · exact nofun
    · intro found
      have isValue := settles.settled found
      rw [List.getElem?_append_left (List.getElem?_eq_some_iff.mp isValue).1, isValue]
  due := by
    intro id other before follower
    rw [Array.getElem?_push]
    split
    · next isLast =>
      intro isNew
      cases isNew
      rw [settles.size] at isLast
      subst isLast
      refine ⟨ignores, present, fun elsewhere => ?_⟩
      rw [List.getElem?_concat_length, stateAt_append _ _ present,
        ignores.next_eq world elsewhere]
    · intro found
      obtain ⟨otherIgnores, earlier, isValue⟩ := settles.due found
      have inside : id < values.length :=
        settles.size ▸ (Array.getElem?_eq_some_iff.mp found).1
      refine ⟨otherIgnores, earlier, fun elsewhere => ?_⟩
      rw [List.getElem?_append_left inside, isValue elsewhere,
        stateAt_append _ _ fun number isBefore =>
          Nat.lt_trans (earlier number isBefore) inside]

end Settles

namespace Manager

/-! ### Reading -/

/-- What reading leaves: some more versions are settled, and nothing else changed. -/
structure Rereads (manager after : Manager ω) (values : List (Option MachineState)) : Prop where
  settles : Settles after.versions values
  machines : after.machines = manager.machines
  current : after.current = manager.current

variable {manager : Manager ω} {values : List (Option MachineState)}

theorem settleWithin_value {bound : Nat} {id : VersionId}
    (settles : Settles manager.versions values) (enough : id < bound) (world : ω) :
    (settleWithin bound manager world id).1 = values.getD id none ∧
      Rereads manager (settleWithin bound manager world id).2.1 values := by
  -- The version before a due one has a smaller number, so the bound always suffices.
  induction bound generalizing manager world id with
  | zero => exact absurd enough (Nat.not_lt_zero id)
  | succ bound inductionHypothesis =>
      rw [settleWithin]
      cases found : manager.versions[id]? with
      | none =>
          have outside : values.length ≤ id :=
            settles.size ▸ Array.getElem?_eq_none_iff.mp found
          exact ⟨(List.getD_eq_default values none outside).symm, settles, rfl, rfl⟩
      | some version =>
          cases version with
          | settled state =>
              refine ⟨?_, settles, rfl, rfl⟩
              rw [List.getD_eq_getElem?_getD, settles.settled found, Option.getD_some]
          | due event previous machine =>
              obtain ⟨ignores, earlier, isValue⟩ := settles.due found
              cases previous with
              | none =>
                  refine ⟨?_, settles.settle (isValue world), rfl, rfl⟩
                  rw [List.getD_eq_getElem?_getD, isValue world, Option.getD_some]
                  rfl
              | some before =>
                  have smaller : before < bound :=
                    Nat.lt_of_lt_of_le (earlier before rfl) (Nat.lt_succ_iff.mp enough)
                  obtain ⟨isState, left⟩ := inductionHypothesis settles smaller world
                  have isNext := isValue (settleWithin bound manager world before).2.2
                  rw [show stateAt values (some before) = values.getD before none from rfl,
                    ← isState] at isNext
                  refine ⟨?_, left.settles.settle isNext, left.machines, left.current⟩
                  rw [List.getD_eq_getElem?_getD, isNext, Option.getD_some]
                  rfl

/-- A snapshot shows the values of the versions that it names. -/
theorem read_value (settles : Settles manager.versions values) (world : ω)
    (seen : Snapshot) (identifier : String) :
    (manager.read world seen identifier).1 = stateAt values (seen.get? identifier) ∧
      Rereads manager (manager.read world seen identifier).2.1 values := by
  unfold read
  cases seen.get? identifier with
  | none => exact ⟨rfl, settles, rfl, rfl⟩
  | some id => exact settleWithin_value settles (Nat.lt_succ_self id) world

/-! ### Noting an event -/

/-- The versions that a snapshot names are there. -/
def NamesWithin (seen : Snapshot) (count : Nat) : Prop :=
  ∀ identifier, ∀ id ∈ seen.get? identifier, id < count

theorem advance_value (settles : Settles manager.versions values)
    (within : NamesWithin manager.current values.length) (world : ω) (event : ObservedEvent)
    {machine : Machine ω} (ignores : machine.IgnoresWorld) (other : ω) :
    let after := (manager.advance world event machine).1
    let next := machine.next other event
      (stateAt values (manager.current.get? machine.identifier))
    Settles after.versions (values ++ [next]) ∧ after.machines = manager.machines ∧
      after.current = manager.current.insert machine.identifier values.length := by
  have left := (read_value settles world manager.current machine.identifier).2
  refine ⟨left.settles.push ignores (within machine.identifier) other, left.machines, ?_⟩
  rw [← left.settles.size]
  exact congrArg (fun current => Entries.insert current _ _) left.current

/-- What the machines of a list make of the state under an identifier, at an event. -/
def followed (machines : List (Machine ω)) (world : ω) (event : ObservedEvent)
    (identifier : String) (before : Option MachineState) : Option MachineState :=
  match machines.find? fun machine => machine.identifier == identifier with
  | some machine => machine.follow world event before
  | none => before

theorem followed_self (machine : Machine ω) (rest : List (Machine ω)) (world : ω)
    (event : ObservedEvent) (before : Option MachineState) :
    followed (machine :: rest) world event machine.identifier before =
      machine.follow world event before := by
  rw [followed, List.find?_cons_of_pos (by simp)]

theorem followed_other {machine : Machine ω} {identifier : String}
    (differs : machine.identifier ≠ identifier) (rest : List (Machine ω)) (world : ω)
    (event : ObservedEvent) (before : Option MachineState) :
    followed (machine :: rest) world event identifier before =
      followed rest world event identifier before := by
  rw [followed, followed, List.find?_cons_of_neg (by simpa using differs)]

theorem followed_absent {machines : List (Machine ω)} {identifier : String}
    (absent : identifier ∉ machines.map Machine.identifier) (world : ω)
    (event : ObservedEvent) (before : Option MachineState) :
    followed machines world event identifier before = before := by
  have noneFound : machines.find? (fun machine => machine.identifier == identifier) = none := by
    rw [List.find?_eq_none]
    intro machine member found
    exact absent (List.mem_map.mpr ⟨machine, member, by simpa using found⟩)
  rw [followed, noneFound]

/-- What the machines of a list leave when they noted an event: versions with values after
those that were there, and under each identifier the state that its machine moves to. -/
structure Notes (manager after : Manager ω) (values more : List (Option MachineState))
    (followers : List (Machine ω)) (world : ω) (event : ObservedEvent) : Prop where
  settles : Settles after.versions (values ++ more)
  machines : after.machines = manager.machines
  within : NamesWithin after.current (values ++ more).length
  owned : ∀ identifier, after.current.contains identifier →
    manager.current.contains identifier ∨ identifier ∈ followers.map Machine.identifier
  shows : ∀ identifier, stateAt (values ++ more) (after.current.get? identifier) =
    followed followers world event identifier (stateAt values (manager.current.get? identifier))

theorem advance_notes (settles : Settles manager.versions values)
    (within : NamesWithin manager.current values.length) (world : ω) (event : ObservedEvent)
    {machine : Machine ω} (ignores : machine.IgnoresWorld)
    (follows : machine.subscriptions.transitions.selects event.identifier) (other : ω) :
    ∃ more, Notes manager (manager.advance world event machine).1 values more [machine] other
      event := by
  obtain ⟨settled, machines, current⟩ := advance_value settles within world event ignores other
  refine ⟨_, settled, machines, ?_, ?_, ?_⟩
  · intro identifier id named
    rw [List.length_append, List.length_singleton]
    rw [current, Entries.get?_insert] at named
    split at named
    · cases named
      exact Nat.lt_succ_self _
    · exact Nat.lt_succ_of_lt (within identifier id named)
  · intro identifier held
    rw [current, Entries.contains, Entries.get?_insert] at held
    split at held
    · next same => exact .inr (by simp [same])
    · exact .inl held
  · intro identifier
    rw [current, Entries.get?_insert]
    split
    · next same =>
      subst same
      rw [followed_self, Machine.follow, if_pos follows, stateAt, Option.bind_some,
        List.getD_append_right _ _ _ _ (Nat.le_refl _), Nat.sub_self]
      rfl
    · next differs => rw [followed_other differs, stateAt_append _ _ (within identifier)]; rfl

theorem advanceAll_notes (settles : Settles manager.versions values)
    (within : NamesWithin manager.current values.length) (world : ω) (event : ObservedEvent)
    {machines : List (Machine ω)} (ignores : ∀ machine ∈ machines, machine.IgnoresWorld)
    (distinct : (machines.map Machine.identifier).Nodup) (other : ω) :
    ∃ more, Notes manager (advanceAll event machines manager world).1 values more machines other
      event := by
  induction machines generalizing manager values world with
  | nil =>
      refine ⟨[], ?_⟩
      rw [advanceAll]
      constructor
      case settles => rwa [List.append_nil]
      case machines => rfl
      case within => rwa [List.append_nil]
      case owned => exact fun _ held => .inl held
      case shows => intro identifier; rw [List.append_nil]; rfl
  | cons machine rest inductionHypothesis =>
      obtain ⟨isNew, restDistinct⟩ := List.nodup_cons.mp distinct
      have restIgnores : ∀ follower ∈ rest, follower.IgnoresWorld :=
        fun follower member => ignores follower (List.mem_cons_of_mem _ member)
      rw [advanceAll]
      split
      · next follows =>
        obtain ⟨first, noted⟩ :=
          advance_notes settles within world event (ignores machine (by simp)) follows other
        obtain ⟨others, notedRest⟩ := inductionHypothesis noted.settles noted.within
          (manager.advance world event machine).2 restIgnores restDistinct
        refine ⟨first ++ others, ?_⟩
        constructor
        case settles => rw [← List.append_assoc]; exact notedRest.settles
        case machines => exact notedRest.machines.trans noted.machines
        case within => rw [← List.append_assoc]; exact notedRest.within
        case owned =>
          intro identifier held
          rcases notedRest.owned identifier held with before | inRest
          · rcases noted.owned identifier before with before | isMachine
            · exact .inl before
            · exact .inr (List.mem_cons.mpr (.inl (List.mem_singleton.mp isMachine)))
          · exact .inr (List.mem_cons_of_mem _ inRest)
        case shows =>
          -- No machine of the rest has the first one's identifier, so each state moves once.
          intro identifier
          rw [← List.append_assoc, notedRest.shows, noted.shows]
          by_cases same : machine.identifier = identifier
          · subst same
            rw [followed_absent isNew, followed_self, followed_self]
          · rw [followed_other same, followed_other same]
            rfl
      · next ignored =>
        obtain ⟨more, notedRest⟩ :=
          inductionHypothesis settles within world restIgnores restDistinct
        refine ⟨more, notedRest.settles, notedRest.machines, notedRest.within, ?_, ?_⟩
        · intro identifier held
          exact (notedRest.owned identifier held).imp_right (List.mem_cons_of_mem _)
        · intro identifier
          rw [notedRest.shows]
          by_cases same : machine.identifier = identifier
          · subst same
            rw [followed_absent isNew, followed_self, Machine.follow, if_neg ignored]
          · rw [followed_other same]

end Manager

end Telemetry

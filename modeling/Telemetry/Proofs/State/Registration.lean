import Telemetry.State.Manager

/-!
Contract: what registering and removing machines does to a manager.

Owns: the machine that is found under an identifier, the order of the identifiers, the
machines, and the versions of states that are kept.

Does not own: what the states are.
-/

namespace Telemetry

variable {ω : Type}

namespace Manager

variable {manager : Manager ω}

theorem find?_eq_none_iff (manager : Manager ω) (identifier : String) :
    manager.find? identifier = none ↔ identifier ∉ manager.identifiers := by
  simp [find?, identifiers]

theorem find?_identifier {identifier : String} {machine : Machine ω}
    (found : manager.find? identifier = some machine) : machine.identifier = identifier := by
  simpa using List.find?_some found

theorem mem_identifiers_of_find? {identifier : String} {machine : Machine ω}
    (found : manager.find? identifier = some machine) : identifier ∈ manager.identifiers :=
  List.mem_map.mpr ⟨machine, List.mem_of_find?_eq_some found, find?_identifier found⟩

theorem find?_replaceIn (machine : Machine ω) (machines : List (Machine ω))
    (identifier : String) :
    (replaceIn machine machines).find? (fun held => held.identifier == identifier) =
      (machines.find? fun held => held.identifier == identifier).map fun held =>
        if held.identifier = machine.identifier then machine else held := by
  have sameTest : ∀ held : Machine ω, ((if held.identifier = machine.identifier then machine
      else held).identifier == identifier) = (held.identifier == identifier) := by
    intro held
    split
    · next same => rw [same]
    · rfl
  rw [replaceIn, List.find?_map]
  simp only [Function.comp_def, sameTest]

theorem identifiers_replaceIn (machine : Machine ω) (machines : List (Machine ω)) :
    (replaceIn machine machines).map Machine.identifier = machines.map Machine.identifier := by
  rw [replaceIn, List.map_map]
  refine List.map_congr_left fun held _ => ?_
  simp only [Function.comp_apply]
  split
  · next same => exact same.symm
  · rfl

theorem find?_add (manager : Manager ω) (machine : Machine ω) (identifier : String) :
    (manager.add machine).find? identifier =
      if machine.identifier = identifier then some machine else manager.find? identifier := by
  unfold add
  cases found : manager.find? machine.identifier with
  | none =>
      simp only [find?] at found ⊢
      rw [List.find?_append]
      split
      · next same => rw [← same, found]; simp
      · next differs => simp [differs]
  | some held =>
      simp only [find?] at found ⊢
      rw [find?_replaceIn]
      split
      · next same =>
        rw [← same, found, Option.map_some, if_pos (find?_identifier found)]
      · next differs =>
        cases other : manager.machines.find? fun held => held.identifier == identifier with
        | none => rfl
        | some another =>
            have isOther : another.identifier = identifier := find?_identifier other
            rw [Option.map_some, if_neg fun same => differs (same.symm.trans isOther)]

theorem find?_remove (manager : Manager ω) (removed identifier : String) :
    (manager.remove removed).find? identifier =
      if removed = identifier then none else manager.find? identifier := by
  rw [remove, find?, List.find?_filter]
  split
  · next same => simp [same]
  · next differs =>
    rw [find?]
    congr 1
    funext machine
    grind

/-- A machine that is registered again keeps its position. -/
theorem identifiers_add (manager : Manager ω) (machine : Machine ω) :
    (manager.add machine).identifiers =
      if machine.identifier ∈ manager.identifiers then
        manager.identifiers
      else
        manager.identifiers ++ [machine.identifier] := by
  cases found : manager.find? machine.identifier with
  | none =>
      rw [if_neg ((find?_eq_none_iff _ _).mp found), add, found, identifiers, List.map_append]
      rfl
  | some held =>
      rw [if_pos (mem_identifiers_of_find? found), add, found]
      exact identifiers_replaceIn machine manager.machines

theorem identifiers_remove (manager : Manager ω) (identifier : String) :
    (manager.remove identifier).identifiers =
      manager.identifiers.filter (· ≠ identifier) := by
  rw [remove, identifiers, identifiers, List.filter_map]
  refine congrArg _ (List.filter_congr fun machine _ => ?_)
  rw [Function.comp_apply, Bool.eq_iff_iff, bne_iff_ne, decide_eq_true_iff]

theorem mem_add {machine member : Machine ω} (isMember : member ∈ (manager.add machine).machines) :
    member = machine ∨ member ∈ manager.machines := by
  unfold add at isMember
  split at isMember
  · rcases List.mem_append.mp isMember with old | new
    · exact .inr old
    · exact .inl (List.mem_singleton.mp new)
  · obtain ⟨held, isHeld, rfl⟩ := List.mem_map.mp isMember
    split
    · exact .inl rfl
    · exact .inr isHeld

/-- A machine that takes the place of one of another kind has no state. -/
theorem get?_current_add (manager : Manager ω) (machine : Machine ω) (identifier : String) :
    (manager.add machine).current.get? identifier =
      if machine.identifier = identifier ∧
          ∃ held ∈ manager.find? identifier, held.kind ≠ machine.kind then
        none
      else
        manager.current.get? identifier := by
  unfold add
  cases found : manager.find? machine.identifier with
  | none =>
      rw [if_neg]
      rintro ⟨same, held, isHeld, -⟩
      rw [← same, found] at isHeld
      cases isHeld
  | some held =>
      by_cases sameKind : held.kind = machine.kind
      · simp only [if_pos sameKind]
        rw [if_neg]
        rintro ⟨same, other, isOther, differs⟩
        rw [← same, found] at isOther
        cases isOther
        exact differs sameKind
      · simp only [if_neg sameKind]
        rw [Entries.get?_erase]
        by_cases same : machine.identifier = identifier
        · rw [if_pos same, if_pos ⟨same, held, same ▸ found, sameKind⟩]
        · rw [if_neg same, if_neg fun both => same both.1]

theorem add_versions (manager : Manager ω) (machine : Machine ω) :
    (manager.add machine).versions = manager.versions := by
  unfold add
  split <;> rfl

theorem current_add_of_found {manager : Manager ω} {machine held : Machine ω}
    (found : manager.find? machine.identifier = some held) :
    (manager.add machine).current.get? machine.identifier =
      if held.kind = machine.kind then manager.current.get? machine.identifier else none := by
  rw [get?_current_add, found]
  by_cases sameKind : held.kind = machine.kind <;> simp [sameKind]

end Manager

end Telemetry

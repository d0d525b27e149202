import Telemetry.Proofs.Json.Values
import Telemetry.Settings.Store

/-!
Contract: what the records of a settings backend answer after a write and after the move of a
legacy record.

Owns:
- a backend that is another one but for what one key answers;
- writes and removals as such a change, for both kinds of backend;
- the move of a legacy record: when nothing is moved, and the two changes that a move is;
- what a call on a store with outages leaves.

Does not own: what the records mean. A value that a table keeps has to be read back from its
text, so writes are about values that are.
-/

namespace Telemetry

/-- A table that is there. -/
def SettingsTable.IsThere (table : SettingsTable) : Prop := ∃ rows, table.rows = some rows

namespace SettingsBackend

/-- No table is missing. -/
def Works : SettingsBackend → Prop
  | .memory _ => True
  | .table settings => settings.IsThere

/-- A backend is another one but for what a key answers. -/
def Updates (before : SettingsBackend) (key : SettingsKey) (answer : Option Json)
    (after : SettingsBackend) : Prop :=
  ∀ wanted, after.get wanted = if key = wanted then .ok answer else before.get wanted

variable {before after : SettingsBackend} {key : SettingsKey} {answer : Option Json}

theorem Updates.get_self (updates : before.Updates key answer after) :
    after.get key = .ok answer := by
  rw [updates key, if_pos rfl]

theorem Updates.get_of_ne (updates : before.Updates key answer after) {wanted : SettingsKey}
    (differs : key ≠ wanted) : after.get wanted = before.get wanted := by
  rw [updates wanted, if_neg differs]

theorem works_of_get (found : before.get key = .ok answer) : before.Works := by
  cases before with
  | memory settings => trivial
  | table settings =>
      cases held : settings.rows with
      | none =>
          simp only [get, SettingsTable.get, held] at found
          cases found
      | some rows => exact ⟨rows, held⟩

theorem Updates.works (updates : before.Updates key answer after) : after.Works :=
  works_of_get updates.get_self

/-! ### Writes and removals -/

theorem readRow_put (rows : Records String) (key wanted : SettingsKey) {value : Json}
    (readsBack : Json.parse? value.text = some value) :
    SettingsTable.readRow (rows.put key value.text) wanted =
      if key = wanted then .ok (some value) else SettingsTable.readRow rows wanted := by
  by_cases same : key = wanted
  · simp only [SettingsTable.readRow, Records.get?_put, same, if_true, readsBack]
  · simp only [SettingsTable.readRow, Records.get?_put, same, if_false]

theorem readRow_erase (rows : Records String) (key wanted : SettingsKey) :
    SettingsTable.readRow (rows.erase key) wanted =
      if key = wanted then .ok none else SettingsTable.readRow rows wanted := by
  by_cases same : key = wanted
  · simp only [SettingsTable.readRow, Entries.get?_erase, same, if_true]
  · simp only [SettingsTable.readRow, Entries.get?_erase, same, if_false]

/-- A write succeeds, and reading gives back what was written. -/
theorem set_updates (works : before.Works) (key : SettingsKey) {value : Json}
    (readsBack : Json.parse? value.text = some value) :
    ∃ after, before.set key value = .ok after ∧ before.Updates key (some value) after := by
  cases before with
  | memory settings =>
      refine ⟨_, rfl, fun wanted => ?_⟩
      simp only [get, MemorySettings.get, MemorySettings.set, Records.get?_put]
      split <;> rfl
  | table settings =>
      obtain ⟨rows, present⟩ := works
      refine ⟨.table ⟨some (rows.put key value.text)⟩, ?_, fun wanted => ?_⟩
      · simp only [set, SettingsTable.set, SettingsTable.setText, present]
        rfl
      · simp only [get, SettingsTable.get, present]
        exact readRow_put rows key wanted readsBack

theorem remove_updates (works : before.Works) (key : SettingsKey) :
    ∃ after, before.remove key = .ok after ∧ before.Updates key none after := by
  cases before with
  | memory settings =>
      refine ⟨_, rfl, fun wanted => ?_⟩
      simp only [get, MemorySettings.get, MemorySettings.remove, Entries.get?_erase]
      split <;> rfl
  | table settings =>
      obtain ⟨rows, present⟩ := works
      refine ⟨.table ⟨some (rows.erase key)⟩, ?_, fun wanted => ?_⟩
      · simp only [remove, SettingsTable.remove, present]
        rfl
      · simp only [get, SettingsTable.get, present]
        exact readRow_erase rows key wanted

/-! ### The move of a legacy record -/

variable {transform : Json → Option Json}

/-- Both kinds of backend move a record by a read of the key, a read of the legacy layout, a write
and a removal. -/
theorem migrate_eq (backend : SettingsBackend) (key : SettingsKey)
    (transform : Json → Option Json) :
    backend.migrate key transform = do
      if (← backend.get key).isSome then
        return (false, backend)
      match (← backend.get (.legacy key.name)).bind transform with
      | none => return (false, backend)
      | some moved =>
        let written ← backend.set key moved
        let after ← written.remove (.legacy key.name)
        return (true, after) := by
  cases backend with
  | memory settings =>
      have contains : settings.records.contains key = (settings.get key).isSome := rfl
      simp only [migrate, MemorySettings.migrate, get, contains]
      cases settings.get key with
      | some value => rfl
      | none =>
          simp only [bind, Except.bind, Option.isSome_none, Bool.false_eq_true, if_false]
          cases (settings.get (.legacy key.name)).bind transform <;> rfl
  | table settings =>
      simp only [migrate, SettingsTable.migrate, get]
      cases settings.get key with
      | error cause => rfl
      | ok held =>
          cases held with
          | some value => rfl
          | none =>
              cases settings.get (.legacy key.name) with
              | error cause => rfl
              | ok old =>
                  simp only [bind, Except.bind, Option.isSome_none, Bool.false_eq_true, if_false]
                  cases old.bind transform with
                  | none => rfl
                  | some moved =>
                      simp only [set]
                      cases settings.set key moved with
                      | error cause => rfl
                      | ok written =>
                          simp only [Except.map, remove]
                          cases written.remove (.legacy key.name) <;> rfl

/-- A key with a record takes none from the legacy layout. -/
theorem migrate_of_present {value : Json} (present : before.get key = .ok (some value)) :
    before.migrate key transform = .ok (false, before) := by
  rw [migrate_eq, present]
  rfl

/-- Nothing is moved if there is nothing to move, or the transformation refuses it. -/
theorem migrate_of_refused {old : Option Json} (absent : before.get key = .ok none)
    (legacy : before.get (.legacy key.name) = .ok old) (refused : old.bind transform = none) :
    before.migrate key transform = .ok (false, before) := by
  rw [migrate_eq, absent, legacy]
  simp only [bind, Except.bind, Option.isSome_none, Bool.false_eq_true, if_false, refused]
  rfl

/-- A move writes the transformed record under the key, and removes the legacy record. -/
theorem migrate_moves (key : SettingsKey) (transform : Json → Option Json) {old moved : Json}
    (absent : before.get key = .ok none)
    (legacy : before.get (.legacy key.name) = .ok (some old))
    (transforms : transform old = some moved)
    (readsBack : Json.parse? moved.text = some moved) :
    ∃ written after, before.migrate key transform = .ok (true, after) ∧
      before.Updates key (some moved) written ∧
      written.Updates (.legacy key.name) none after := by
  obtain ⟨written, setOk, setUpdates⟩ := set_updates (works_of_get absent) key readsBack
  obtain ⟨after, removeOk, removeUpdates⟩ :=
    remove_updates setUpdates.works (.legacy key.name)
  refine ⟨written, after, ?_, setUpdates, removeUpdates⟩
  rw [migrate_eq, absent, legacy]
  simp only [bind, Except.bind, Option.isSome_none, Bool.false_eq_true, if_false, transforms,
    Option.bind_some, setOk, removeOk]
  rfl

end SettingsBackend

/-! ### Calls on a store with outages -/

namespace SettingsStore

variable {store : SettingsStore} {key : SettingsKey}

theorem set_of_refused {value : Json} (refused : store.refuses .set store.calls = true) :
    (store.set key value).2 = store.called := by
  rw [set, if_pos refused]

theorem set_of_accepted (key : SettingsKey) {value : Json}
    (accepted : store.refuses .set store.calls = false)
    (works : store.backend.Works) (readsBack : Json.parse? value.text = some value) :
    ∃ backend, (store.set key value).2 = { store.called with backend := backend } ∧
      store.backend.Updates key (some value) backend := by
  obtain ⟨backend, written, updates⟩ := SettingsBackend.set_updates works key readsBack
  refine ⟨backend, ?_, updates⟩
  rw [set, if_neg (by simp [accepted]), written]

theorem migrate_of_outage {transform : Json → Option Json}
    (refused : store.refuses .migrate store.calls = true) :
    (store.migrate key transform).2 = store.called := by
  rw [migrate, if_pos refused]

theorem migrate_of_answer {transform : Json → Option Json} {moved : Bool}
    {backend : SettingsBackend} (accepted : store.refuses .migrate store.calls = false)
    (answers : store.backend.migrate key transform = .ok (moved, backend)) :
    (store.migrate key transform).2 = { store.called with backend := backend } := by
  rw [migrate, if_neg (by simp [accepted]), answers]

/-- A move is one call, whatever comes of it. -/
theorem migrate_frame (transform : Json → Option Json) :
    (store.migrate key transform).2.calls = store.calls + 1 ∧
      (store.migrate key transform).2.refuses = store.refuses := by
  unfold migrate
  split
  · exact ⟨rfl, rfl⟩
  · split <;> exact ⟨rfl, rfl⟩

end SettingsStore

end Telemetry

import Telemetry.Proofs.Settings.Keeping

/-!
Contract: the records of a settings backend as they are stored, readable or not.

Owns:
- what is stored under a key, and when reading answers it;
- writes, removals and moves of a legacy record as changes of what is stored, in every state;
- the records outside the legacy layout, which stay through every call.

Does not own: what the records mean, and which values come back from their text.
-/

namespace Telemetry

/-- What is stored under a key: a value, or a text that need not be one. -/
inductive RecordContent where
  | value (value : Json)
  | text (text : String)
deriving DecidableEq, Repr

/-- The value that stored content is read as. -/
def RecordContent.value? : RecordContent → Option Json
  | .value held => some held
  | .text written => Json.parse? written

/-- A value is read back from its text. -/
def Json.ComesBack (value : Json) : Prop := parse? value.text = some value

namespace SettingsBackend

/-- What is stored under a key. Nothing is if the table is gone. -/
def recordAt? : SettingsBackend → SettingsKey → Option RecordContent
  | .memory settings, key => (settings.records.get? key).map .value
  | .table settings, key => ((settings.rows.getD []).get? key).map .text

/-- What is stored for a value. -/
def stored : SettingsBackend → Json → RecordContent
  | .memory _ => .value
  | .table _ => fun value => .text value.text

variable {backend before after : SettingsBackend} {key : SettingsKey}

/-! ### Reading -/

/-- Reading answers what is stored under the key, unless it is no value. -/
theorem get_of_works (works : backend.Works) (key : SettingsKey) :
    backend.get key =
      match backend.recordAt? key with
      | none => .ok none
      | some content =>
        match content.value? with
        | some value => .ok (some value)
        | none => .error .unreadable := by
  cases backend with
  | memory settings =>
      simp only [get, MemorySettings.get, recordAt?]
      cases settings.records.get? key <;> rfl
  | table settings =>
      obtain ⟨rows, present⟩ := works
      simp only [get, SettingsTable.get, SettingsTable.readRow, recordAt?, present,
        Option.getD_some]
      cases rows.get? key <;> rfl

theorem works_of_record {content : RecordContent}
    (isStored : backend.recordAt? key = some content) : backend.Works := by
  cases backend with
  | memory settings => trivial
  | table settings =>
      cases present : settings.rows with
      | none =>
          rw [recordAt?, present] at isStored
          cases isStored
      | some rows => exact ⟨rows, present⟩

theorem get_eq_none_iff (works : backend.Works) :
    backend.get key = .ok none ↔ backend.recordAt? key = none := by
  rw [get_of_works works key]
  cases backend.recordAt? key with
  | none => simp
  | some content => cases isValue : content.value? <;> simp [isValue]

theorem get_eq_some_iff {value : Json} :
    backend.get key = .ok (some value) ↔
      ∃ content, backend.recordAt? key = some content ∧ content.value? = some value := by
  constructor
  · intro found
    rw [get_of_works (works_of_get found) key] at found
    cases isStored : backend.recordAt? key with
    | none =>
        rw [isStored] at found
        cases found
    | some content =>
        rw [isStored] at found
        cases isValue : content.value? with
        | none =>
            simp only [isValue] at found
            cases found
        | some held =>
            simp only [isValue, Except.ok.injEq, Option.some.injEq] at found
            exact ⟨content, rfl, by rw [isValue, found]⟩
  · rintro ⟨content, isStored, isValue⟩
    rw [get_of_works (works_of_record isStored) key, isStored]
    simp only [isValue]

/-! ### Writes and removals -/

/-- A backend stores what another one does but for one key. -/
def Replaces (before : SettingsBackend) (key : SettingsKey) (content? : Option RecordContent)
    (after : SettingsBackend) : Prop :=
  ∀ wanted, after.recordAt? wanted = if key = wanted then content? else before.recordAt? wanted

theorem set_replaces {value : Json} (written : before.set key value = .ok after) :
    before.Replaces key (some (before.stored value)) after := by
  intro wanted
  cases before with
  | memory settings =>
      obtain rfl := Except.ok.inj written
      simp only [recordAt?, MemorySettings.set, Records.get?_put, stored]
      split <;> rfl
  | table settings =>
      cases present : settings.rows with
      | none =>
          simp only [set, SettingsTable.set, SettingsTable.setText, present] at written
          cases written
      | some rows =>
          simp only [set, SettingsTable.set, SettingsTable.setText, present] at written
          obtain rfl := Except.ok.inj written
          simp only [recordAt?, Option.getD_some, Records.get?_put, stored, present]
          split <;> rfl

theorem remove_replaces (removed : before.remove key = .ok after) :
    before.Replaces key none after := by
  intro wanted
  cases before with
  | memory settings =>
      obtain rfl := Except.ok.inj removed
      simp only [recordAt?, MemorySettings.remove, Entries.get?_erase]
      split <;> rfl
  | table settings =>
      cases present : settings.rows with
      | none =>
          simp only [remove, SettingsTable.remove, present] at removed
          cases removed
      | some rows =>
          simp only [remove, SettingsTable.remove, present] at removed
          obtain rfl := Except.ok.inj removed
          simp only [recordAt?, Option.getD_some, Entries.get?_erase, present]
          split <;> rfl

/-- A write is refused only by a table that is gone. -/
theorem set_of_works (works : before.Works) (key : SettingsKey) (value : Json) :
    ∃ after, before.set key value = .ok after ∧ after.Works := by
  cases before with
  | memory settings => exact ⟨_, rfl, trivial⟩
  | table settings =>
      obtain ⟨rows, present⟩ := works
      refine ⟨.table ⟨some (rows.put key value.text)⟩, ?_, _, rfl⟩
      simp only [set, SettingsTable.set, SettingsTable.setText, present]
      rfl

theorem remove_of_works (works : before.Works) (key : SettingsKey) :
    ∃ after, before.remove key = .ok after := by
  obtain ⟨after, removed, _⟩ := remove_updates works key
  exact ⟨after, removed⟩

/-! ### The move of a legacy record -/

variable {transform : Json → Option Json}

/-- What a move that succeeds read, and what it wrote and removed. -/
structure Moves (before : SettingsBackend) (key : SettingsKey) (transform : Json → Option Json)
    (after : SettingsBackend) (old moved : Json) (written : SettingsBackend) : Prop where
  absent : before.get key = .ok none
  legacy : before.get (.legacy key.name) = .ok (some old)
  transforms : transform old = some moved
  writes : before.set key moved = .ok written
  removes : written.remove (.legacy key.name) = .ok after

/-- A move fails, or leaves the backend as it was, or takes all of its steps. -/
theorem migrate_cases (before : SettingsBackend) (key : SettingsKey)
    (transform : Json → Option Json) :
    (∃ cause, before.migrate key transform = .error cause) ∨
      before.migrate key transform = .ok (false, before) ∨
      ∃ after old moved written, before.migrate key transform = .ok (true, after) ∧
        before.Moves key transform after old moved written := by
  rw [migrate_eq]
  cases absent : before.get key with
  | error cause => exact .inl ⟨cause, rfl⟩
  | ok held =>
      cases held with
      | some value => exact .inr (.inl rfl)
      | none =>
          simp only [bind, Except.bind, Option.isSome_none, Bool.false_eq_true, if_false]
          cases legacy : before.get (.legacy key.name) with
          | error cause => exact .inl ⟨cause, rfl⟩
          | ok old =>
              cases transforms : old.bind transform with
              | none => exact .inr (.inl (by simp only [transforms]; rfl))
              | some moved =>
                  obtain ⟨value, rfl, transforms⟩ := Option.bind_eq_some_iff.mp transforms
                  obtain ⟨written, writes, works⟩ :=
                    set_of_works (works_of_get absent) key moved
                  obtain ⟨after, removes⟩ := remove_of_works works (.legacy key.name)
                  refine .inr (.inr ⟨after, value, moved, written, ?_,
                    ⟨absent, legacy, transforms, writes, removes⟩⟩)
                  simp only [transforms, writes, removes]
                  rfl

/-- The key has no record, and the legacy layout has one that can be read and that the
transformation makes another value of. -/
def Movable (backend : SettingsBackend) (key : SettingsKey) (transform : Json → Option Json)
    (moved : Json) : Prop :=
  backend.recordAt? key = none ∧
    ∃ content old, backend.recordAt? (.legacy key.name) = some content ∧
      content.value? = some old ∧ transform old = some moved

theorem Moves.movable {old moved : Json} {written : SettingsBackend}
    (moves : before.Moves key transform after old moved written) :
    before.Movable key transform moved := by
  obtain ⟨content, isStored, isValue⟩ := get_eq_some_iff.mp moves.legacy
  exact ⟨(get_eq_none_iff (works_of_record isStored)).mp moves.absent,
    content, old, isStored, isValue, moves.transforms⟩

theorem migrate_iff (before : SettingsBackend) (key : SettingsKey)
    (transform : Json → Option Json) :
    (∃ after, before.migrate key transform = .ok (true, after)) ↔
      ∃ moved, before.Movable key transform moved := by
  constructor
  · rintro ⟨after, isMoved⟩
    rcases before.migrate_cases key transform with
      ⟨cause, failed⟩ | same | ⟨_, old, moved, written, _, moves⟩
    · cases failed.symm.trans isMoved
    · cases same.symm.trans isMoved
    · exact ⟨moved, moves.movable⟩
  · rintro ⟨moved, none, content, old, isStored, isValue, transforms⟩
    have works := works_of_record isStored
    have absent := (get_eq_none_iff works).mpr none
    have legacy := get_eq_some_iff.mpr ⟨content, isStored, isValue⟩
    obtain ⟨written, writes, worksStill⟩ := set_of_works works key moved
    obtain ⟨after, removes⟩ := remove_of_works worksStill (.legacy key.name)
    refine ⟨after, ?_⟩
    rw [migrate_eq, absent, legacy]
    simp only [bind, Except.bind, Option.isSome_none, Bool.false_eq_true, if_false,
      Option.bind_some, transforms, writes, removes]
    rfl

/-- The records after a move: the transformed one under the key, none in the legacy layout, and
all others as before. -/
structure MovedRecord (before : SettingsBackend) (key : SettingsKey) (moved : Json)
    (after : SettingsBackend) : Prop where
  atKey : after.recordAt? key = some (before.stored moved)
  answers : moved.ComesBack → after.get key = .ok (some moved)
  noLegacy : after.recordAt? (.legacy key.name) = none
  others : ∀ other, other ≠ key → other ≠ .legacy key.name →
    after.recordAt? other = before.recordAt? other

theorem value?_stored (backend : SettingsBackend) {value : Json} (comesBack : value.ComesBack) :
    (backend.stored value).value? = some value := by
  cases backend with
  | memory settings => rfl
  | table settings => exact comesBack

theorem movedRecord_of_migrate (isMoved : before.migrate key transform = .ok (true, after)) :
    ∃ moved, before.Movable key transform moved ∧ before.MovedRecord key moved after := by
  rcases before.migrate_cases key transform with
    ⟨cause, failed⟩ | same | ⟨next, old, moved, written, answered, moves⟩
  · cases failed.symm.trans isMoved
  · cases same.symm.trans isMoved
  obtain ⟨_, rfl⟩ := Prod.mk.inj (Except.ok.inj (answered.symm.trans isMoved))
  have movable := moves.movable
  obtain ⟨absent, content, _, isStored, _⟩ := movable
  have differs : SettingsKey.legacy key.name ≠ key := by
    intro same
    rw [same, absent] at isStored
    cases isStored
  have writes := set_replaces moves.writes
  have removes := remove_replaces moves.removes
  have atKey : next.recordAt? key = some (before.stored moved) := by
    rw [removes key, if_neg differs, writes key, if_pos rfl]
  refine ⟨moved, moves.movable, atKey, fun comesBack => ?_, ?_, ?_⟩
  · exact get_eq_some_iff.mpr ⟨_, atKey, before.value?_stored comesBack⟩
  · rw [removes, if_pos rfl]
  · intro other notKey notLegacy
    rw [removes, if_neg notLegacy.symm, writes, if_neg notKey.symm]

/-- Without a move nothing changes. -/
theorem eq_of_migrate_false (unmoved : before.migrate key transform = .ok (false, after)) :
    after = before := by
  rcases before.migrate_cases key transform with ⟨cause, failed⟩ | same | ⟨_, _, _, _, moved, _⟩
  · cases failed.symm.trans unmoved
  · exact (Prod.mk.inj (Except.ok.inj (unmoved.symm.trans same))).2
  · cases moved.symm.trans unmoved

/-- What a move would read is no value: what is stored under the key, or in the legacy layout if
the key has no record. -/
def Unreadable (backend : SettingsBackend) (key : SettingsKey) : Prop :=
  (∃ content, backend.recordAt? key = some content ∧ content.value? = none) ∨
    backend.recordAt? key = none ∧
      ∃ content, backend.recordAt? (.legacy key.name) = some content ∧ content.value? = none

theorem migrate_of_unreadable (unreadable : before.Unreadable key) :
    before.migrate key transform = .error .unreadable := by
  rw [migrate_eq]
  rcases unreadable with ⟨content, isStored, noValue⟩ | ⟨absent, content, isStored, noValue⟩
  · rw [get_of_works (works_of_record isStored) key, isStored]
    simp only [noValue]
    rfl
  · have works := works_of_record isStored
    rw [(get_eq_none_iff works).mpr absent, get_of_works works (.legacy key.name), isStored]
    simp only [noValue]
    rfl

/-! ### Records that stay -/

/-- Every record outside the legacy layout is still there. -/
def Retains (before after : SettingsBackend) : Prop :=
  ∀ key, key.scope ≠ legacyScope → (before.recordAt? key).isSome → (after.recordAt? key).isSome

theorem retains_self (backend : SettingsBackend) : backend.Retains backend :=
  fun _ _ held => held

theorem set_retains {value : Json} (written : before.set key value = .ok after) :
    before.Retains after := by
  intro wanted _ held
  rw [set_replaces written wanted]
  split
  · rfl
  · exact held

/-- A move removes a record of the legacy layout alone. -/
theorem migrate_retains {moved : Bool}
    (answered : before.migrate key transform = .ok (moved, after)) : before.Retains after := by
  cases moved with
  | false =>
      rw [eq_of_migrate_false answered]
      exact retains_self before
  | true =>
      obtain ⟨moved, _, records⟩ := movedRecord_of_migrate answered
      intro wanted named held
      by_cases isKey : wanted = key
      · rw [isKey, records.atKey]
        rfl
      · have notLegacy : wanted ≠ .legacy key.name := by
          intro same
          rw [same] at named
          exact named rfl
        rw [records.others wanted isKey notLegacy]
        exact held

end SettingsBackend

end Telemetry

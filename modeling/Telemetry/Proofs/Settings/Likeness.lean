import Telemetry.Proofs.Settings.Records

/-!
Contract: settings stores that share some of their records.

Owns:
- backends of one kind, and stores with the same outages, whose records under some keys are the
  same;
- that a call about a shared record is answered the same, and that any call leaves such stores,
  whatever values it is about;
- that a call about a record that is not shared leaves a store that shares the others;
- stores that differ in the records of one name.

Does not own: which records are shared, and what they are.
-/

namespace Telemetry

namespace SettingsBackend

/-- Two backends are of one kind and store the same under the keys that they share. -/
structure AlikeOn (shared : SettingsKey → Prop) (backend mirror : SettingsBackend) : Prop where
  stored : mirror.stored = backend.stored
  works : mirror.Works ↔ backend.Works
  records : ∀ key, shared key → mirror.recordAt? key = backend.recordAt? key

/-- Two backends are of one kind and store the same, but for records of a name. -/
structure AlikeBut (name : String) (backend mirror : SettingsBackend) : Prop where
  stored : mirror.stored = backend.stored
  works : mirror.Works ↔ backend.Works
  records : ∀ key, key.name ≠ name → mirror.recordAt? key = backend.recordAt? key

theorem alikeBut_iff {name : String} {backend mirror : SettingsBackend} :
    backend.AlikeBut name mirror ↔ backend.AlikeOn (fun key => key.name ≠ name) mirror :=
  ⟨fun alike => ⟨alike.stored, alike.works, alike.records⟩,
    fun alike => ⟨alike.stored, alike.works, alike.records⟩⟩

variable {shared : SettingsKey → Prop} {backend mirror after : SettingsBackend} {key : SettingsKey}

/-- A table that is gone fails every call. -/
theorem calls_of_not_works (gone : ¬ backend.Works) (key : SettingsKey) (value : Json) :
    backend.get key = .error .noTable ∧ backend.set key value = .error .noTable := by
  cases backend with
  | memory settings => exact absurd trivial gone
  | table settings =>
      have absent : settings.rows = none :=
        Option.eq_none_iff_forall_ne_some.mpr fun rows present => gone ⟨rows, present⟩
      constructor
      · rw [get, SettingsTable.get, absent]
      · rw [set, SettingsTable.set, SettingsTable.setText, absent]
        rfl

theorem set_stored {value : Json} (written : backend.set key value = .ok after) :
    after.stored = backend.stored := by
  cases backend with
  | memory settings =>
      obtain rfl := Except.ok.inj written
      rfl
  | table settings =>
      cases isWritten : settings.set key value with
      | error cause => simp [set, isWritten, Except.map] at written
      | ok rows =>
          rw [set, isWritten] at written
          obtain rfl := Except.ok.inj written
          rfl

theorem remove_stored (removed : backend.remove key = .ok after) :
    after.stored = backend.stored := by
  cases backend with
  | memory settings =>
      obtain rfl := Except.ok.inj removed
      rfl
  | table settings =>
      cases isRemoved : settings.remove key with
      | error cause => simp [remove, isRemoved, Except.map] at removed
      | ok rows =>
          rw [remove, isRemoved] at removed
          obtain rfl := Except.ok.inj removed
          rfl

/-- A write that succeeds has a backend that works, and leaves one. -/
theorem works_of_set {value : Json} (written : backend.set key value = .ok after) :
    backend.Works ∧ after.Works := by
  by_cases works : backend.Works
  · obtain ⟨next, isWritten, worksThen⟩ := set_of_works works key value
    obtain rfl : next = after := Except.ok.inj (isWritten.symm.trans written)
    exact ⟨works, worksThen⟩
  · cases (calls_of_not_works works key value).2.symm.trans written

/-! ### One backend before and after a call -/

/-- A write leaves all other records. -/
theorem set_alikeOn {value : Json} (written : backend.set key value = .ok after)
    (apart : ¬ shared key) : backend.AlikeOn shared after where
  stored := set_stored written
  works := by
    obtain ⟨works, worksThen⟩ := works_of_set written
    exact iff_of_true worksThen works
  records := by
    intro wanted isShared
    rw [set_replaces written wanted, if_neg]
    rintro rfl
    exact apart isShared

theorem remove_alikeOn (works : backend.Works) (removed : backend.remove key = .ok after)
    (apart : ¬ shared key) : backend.AlikeOn shared after where
  stored := remove_stored removed
  works := by
    obtain ⟨next, isRemoved, updates⟩ := remove_updates works key
    obtain rfl : next = after := Except.ok.inj (isRemoved.symm.trans removed)
    exact iff_of_true updates.works works
  records := by
    intro wanted isShared
    rw [remove_replaces removed wanted, if_neg]
    rintro rfl
    exact apart isShared

namespace AlikeOn

theorem self (backend : SettingsBackend) : backend.AlikeOn shared backend :=
  ⟨rfl, Iff.rfl, fun _ _ => rfl⟩

theorem trans (left : backend.AlikeOn shared mirror) (right : mirror.AlikeOn shared after) :
    backend.AlikeOn shared after where
  stored := right.stored.trans left.stored
  works := right.works.trans left.works
  records := fun key isShared => (right.records key isShared).trans (left.records key isShared)

/-! ### Two backends before and after the same call -/

theorem get (alike : backend.AlikeOn shared mirror) (isShared : shared key) :
    mirror.get key = backend.get key := by
  by_cases works : backend.Works
  · rw [get_of_works (alike.works.mpr works), get_of_works works, alike.records key isShared]
  · rw [(calls_of_not_works works key .null).1,
      (calls_of_not_works (mt alike.works.mp works) key .null).1]

/-- Writes succeed in both backends or in none. The values may differ if the record may. -/
theorem set (alike : backend.AlikeOn shared mirror) (key : SettingsKey) {value other : Json}
    (same : shared key → other = value) :
    (∃ after mirrored, backend.set key value = .ok after ∧ mirror.set key other = .ok mirrored ∧
        after.AlikeOn shared mirrored) ∨
      backend.set key value = .error .noTable ∧ mirror.set key other = .error .noTable := by
  by_cases works : backend.Works
  · obtain ⟨after, written, afterWorks⟩ := set_of_works works key value
    obtain ⟨mirrored, mirrorWritten, mirrorWorks⟩ :=
      set_of_works (alike.works.mpr works) key other
    refine .inl ⟨after, mirrored, written, mirrorWritten, ?_⟩
    constructor
    case stored => rw [set_stored written, set_stored mirrorWritten, alike.stored]
    case works => exact iff_of_true mirrorWorks afterWorks
    case records =>
      intro wanted isShared
      rw [set_replaces written, set_replaces mirrorWritten, alike.records wanted isShared,
        alike.stored]
      split
      · next isKey => rw [same (isKey ▸ isShared)]
      · rfl
  · exact .inr ⟨(calls_of_not_works works key value).2,
      (calls_of_not_works (mt alike.works.mp works) key other).2⟩

theorem remove (alike : backend.AlikeOn shared mirror) (works : backend.Works)
    (key : SettingsKey) :
    ∃ after mirrored, backend.remove key = .ok after ∧ mirror.remove key = .ok mirrored ∧
      after.AlikeOn shared mirrored := by
  obtain ⟨after, removed, updates⟩ := remove_updates works key
  obtain ⟨mirrored, mirrorRemoved, mirrorUpdates⟩ :=
    remove_updates (alike.works.mpr works) key
  refine ⟨after, mirrored, removed, mirrorRemoved, ?_⟩
  constructor
  case stored => rw [remove_stored removed, remove_stored mirrorRemoved, alike.stored]
  case works => exact iff_of_true mirrorUpdates.works updates.works
  case records =>
    intro wanted isShared
    rw [remove_replaces removed, remove_replaces mirrorRemoved, alike.records wanted isShared]

/-- A move is answered the same if both backends share all that it reads: the record of the key,
and the legacy record if there is none. -/
theorem migrate (alike : backend.AlikeOn shared mirror) (isShared : shared key)
    (legacy : backend.recordAt? key = none → shared (.legacy key.name))
    (transform : Json → Option Json) :
    (∃ moved after mirrored, backend.migrate key transform = .ok (moved, after) ∧
        mirror.migrate key transform = .ok (moved, mirrored) ∧ after.AlikeOn shared mirrored) ∨
      ∃ cause, backend.migrate key transform = .error cause ∧
        mirror.migrate key transform = .error cause := by
  rw [migrate_eq, migrate_eq, alike.get isShared]
  cases found : backend.get key with
  | error cause => exact .inr ⟨cause, rfl, rfl⟩
  | ok held =>
      cases held with
      | some value => exact .inl ⟨false, backend, mirror, rfl, rfl, alike⟩
      | none =>
          have absent := (get_eq_none_iff (works_of_get found)).mp found
          rw [alike.get (legacy absent)]
          simp only [bind, Except.bind, Option.isSome_none, Bool.false_eq_true, if_false]
          cases backend.get (.legacy key.name) with
          | error cause => exact .inr ⟨cause, rfl, rfl⟩
          | ok old =>
              simp only
              cases old.bind transform with
              | none => exact .inl ⟨false, backend, mirror, rfl, rfl, alike⟩
              | some moved =>
                  simp only
                  rcases alike.set key fun _ => Eq.refl moved with
                    ⟨written, mirrorWritten, isWritten, isMirrorWritten, alikeThen⟩ |
                    ⟨failed, mirrorFailed⟩
                  · obtain ⟨after, mirrored, removed, mirrorRemoved, alikeAfter⟩ :=
                      alikeThen.remove (works_of_set isWritten).2 (.legacy key.name)
                    simp only [isWritten, isMirrorWritten, removed, mirrorRemoved]
                    exact .inl ⟨true, after, mirrored, rfl, rfl, alikeAfter⟩
                  · simp only [failed, mirrorFailed]
                    exact .inr ⟨_, rfl, rfl⟩

end AlikeOn

end SettingsBackend

namespace SettingsStore

/-- Two stores refuse the same calls and store the same under the keys that they share. -/
structure AlikeOn (shared : SettingsKey → Prop) (store mirror : SettingsStore) : Prop where
  backends : store.backend.AlikeOn shared mirror.backend
  refuses : mirror.refuses = store.refuses
  calls : mirror.calls = store.calls

/-- Two stores refuse the same calls and store the same, but for records of a name. -/
structure AlikeBut (name : String) (store mirror : SettingsStore) : Prop where
  backends : store.backend.AlikeBut name mirror.backend
  refuses : mirror.refuses = store.refuses
  calls : mirror.calls = store.calls

theorem alikeBut_iff {name : String} {store mirror : SettingsStore} :
    store.AlikeBut name mirror ↔ store.AlikeOn (fun key => key.name ≠ name) mirror :=
  ⟨fun alike => ⟨SettingsBackend.alikeBut_iff.mp alike.backends, alike.refuses, alike.calls⟩,
    fun alike => ⟨SettingsBackend.alikeBut_iff.mpr alike.backends, alike.refuses, alike.calls⟩⟩

namespace AlikeOn

variable {shared : SettingsKey → Prop} {store mirror : SettingsStore} {key : SettingsKey}

theorem called (alike : store.AlikeOn shared mirror) :
    store.called.AlikeOn shared mirror.called :=
  ⟨alike.backends, alike.refuses, congrArg (· + 1) alike.calls⟩

theorem get_snd (alike : store.AlikeOn shared mirror) (key : SettingsKey) :
    (store.get key).2.AlikeOn shared (mirror.get key).2 := by
  have answered : ∀ store : SettingsStore, (store.get key).2 = store.called := by
    intro store
    unfold SettingsStore.get
    split <;> rfl
  rw [answered, answered]
  exact alike.called

theorem get_fst (alike : store.AlikeOn shared mirror) (isShared : shared key) :
    (mirror.get key).1 = (store.get key).1 := by
  rw [SettingsStore.get, SettingsStore.get, alike.refuses, alike.calls,
    alike.backends.get isShared]
  split <;> rfl

theorem set (alike : store.AlikeOn shared mirror) (key : SettingsKey) (value other : Json)
    (same : shared key → other = value) :
    (mirror.set key other).1 = (store.set key value).1 ∧
      (store.set key value).2.AlikeOn shared (mirror.set key other).2 := by
  rw [SettingsStore.set, SettingsStore.set, alike.refuses, alike.calls]
  split
  · exact ⟨rfl, alike.called⟩
  · rcases alike.backends.set key same with
      ⟨after, mirrored, written, mirrorWritten, alikeAfter⟩ | ⟨failed, mirrorFailed⟩
    · rw [written, mirrorWritten]
      exact ⟨rfl, alikeAfter, alike.called.refuses, alike.called.calls⟩
    · rw [failed, mirrorFailed]
      exact ⟨rfl, alike.called⟩

theorem migrate (alike : store.AlikeOn shared mirror) (isShared : shared key)
    (legacy : store.backend.recordAt? key = none → shared (.legacy key.name))
    (transform : Json → Option Json) :
    (mirror.migrate key transform).1 = (store.migrate key transform).1 ∧
      (store.migrate key transform).2.AlikeOn shared (mirror.migrate key transform).2 := by
  rw [SettingsStore.migrate, SettingsStore.migrate, alike.refuses, alike.calls]
  split
  · exact ⟨rfl, alike.called⟩
  · rcases alike.backends.migrate isShared legacy transform with
      ⟨moved, after, mirrored, answered, mirrorAnswered, alikeAfter⟩ |
      ⟨cause, failed, mirrorFailed⟩
    · rw [answered, mirrorAnswered]
      exact ⟨rfl, alikeAfter, alike.called.refuses, alike.called.calls⟩
    · rw [failed, mirrorFailed]
      exact ⟨rfl, alike.called⟩

end AlikeOn

namespace AlikeBut

variable {name : String} {store mirror : SettingsStore} {key : SettingsKey}

theorem called (alike : store.AlikeBut name mirror) : store.called.AlikeBut name mirror.called :=
  alikeBut_iff.mpr (alikeBut_iff.mp alike).called

theorem get_snd (alike : store.AlikeBut name mirror) (key : SettingsKey) :
    (store.get key).2.AlikeBut name (mirror.get key).2 :=
  alikeBut_iff.mpr ((alikeBut_iff.mp alike).get_snd key)

theorem get_fst (alike : store.AlikeBut name mirror) (isOther : key.name ≠ name) :
    (mirror.get key).1 = (store.get key).1 :=
  (alikeBut_iff.mp alike).get_fst isOther

theorem set (alike : store.AlikeBut name mirror) (key : SettingsKey) (value other : Json)
    (same : key.name ≠ name → other = value) :
    (mirror.set key other).1 = (store.set key value).1 ∧
      (store.set key value).2.AlikeBut name (mirror.set key other).2 := by
  rw [alikeBut_iff]
  exact (alikeBut_iff.mp alike).set key value other same

theorem migrate (alike : store.AlikeBut name mirror) (isOther : key.name ≠ name)
    (transform : Json → Option Json) :
    (mirror.migrate key transform).1 = (store.migrate key transform).1 ∧
      (store.migrate key transform).2.AlikeBut name (mirror.migrate key transform).2 := by
  have legacyIsOther : (SettingsKey.legacy key.name).name ≠ name := isOther
  rw [alikeBut_iff]
  exact (alikeBut_iff.mp alike).migrate isOther (fun _ => legacyIsOther) transform

/-- A move under the name changes nothing where each store has a record of its own. -/
theorem migrate_of_present (alike : store.AlikeBut name mirror)
    (transform other : Json → Option Json) {value held : Json}
    (present : store.backend.get key = .ok (some value))
    (mirrorPresent : mirror.backend.get key = .ok (some held)) :
    (store.migrate key transform).2.AlikeBut name (mirror.migrate key other).2 := by
  rw [SettingsStore.migrate, SettingsStore.migrate, alike.refuses, alike.calls,
    SettingsBackend.migrate_of_present present, SettingsBackend.migrate_of_present mirrorPresent]
  split
  · exact alike.called
  · exact ⟨alike.backends, alike.called.refuses, alike.called.calls⟩

end AlikeBut

end SettingsStore

end Telemetry

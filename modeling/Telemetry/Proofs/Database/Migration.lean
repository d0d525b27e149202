import Telemetry.Proofs.Database.Record

/-!
Contract: a run applies each change once, and leaves nothing of a change that fails.

Owns:
- a change with its record as one step that happens or does not;
- which changes a run applies, what it leaves when it fails, and what the next run does.

Does not own: what the statements of a change do, apart from the record.
-/

namespace Telemetry

variable {δ : Type}

namespace Migration

/-- The database after a change and its record, unless one of them fails. -/
def applied? (record : MigrationRecord δ) (migration : Migration δ) (database : δ) : Option δ :=
  (migration.statements ++ [record.add migration.name]).foldlM
    (fun database statement => statement database) database

/-- The database after changes one after the other, each with its record. -/
def appliedAll? (record : MigrationRecord δ) (migrations : List (Migration δ)) (database : δ) :
    Option δ :=
  migrations.foldlM (fun database migration => migration.applied? record database) database

/-- The changes whose names are not among these, in their order. -/
def unrecorded (names : List String) (migrations : List (Migration δ)) : List (Migration δ) :=
  migrations.filter fun migration => migration.name ∉ names

/-- The changes that are not recorded, in their order. -/
def pending (record : MigrationRecord δ) (database : δ) (migrations : List (Migration δ)) :
    List (Migration δ) :=
  unrecorded ((record.names database).getD []) migrations

/-! ### One change -/

theorem runStatements_eq (statements : List (Statement δ)) (database : δ) :
    (∃ after, statements.foldlM (fun database statement => statement database) database =
        some after ∧ runStatements statements database = (true, after)) ∨
      statements.foldlM (fun database statement => statement database) database = none ∧
        (runStatements statements database).1 = false := by
  induction statements generalizing database with
  | nil => exact .inl ⟨database, rfl, rfl⟩
  | cons statement rest inductionHypothesis =>
      rw [List.foldlM_cons, runStatements]
      cases statement database with
      | none => exact .inr ⟨rfl, rfl⟩
      | some changed => exact inductionHypothesis changed

/-- A transaction happens as a whole or leaves the database as it was. -/
theorem transaction_eq (record : MigrationRecord δ) (migration : Migration δ) (database : δ) :
    transaction (migration.statements ++ [record.add migration.name]) database =
      match migration.applied? record database with
      | some after => (true, after)
      | none => (false, database) := by
  rw [applied?, transaction]
  rcases runStatements_eq (migration.statements ++ [record.add migration.name]) database with
    ⟨after, applies, ran⟩ | ⟨fails, ran⟩
  · rw [applies, ran]
  · rw [fails]
    split
    · next changed same =>
      rw [same] at ran
      cases ran
    · rfl

section Runs

variable {record : MigrationRecord δ} {migration : Migration δ} {migrations : List (Migration δ)}
  {database after : δ} {names : List String}

/-- After a change that happened, its name is recorded with those before it. -/
theorem names_of_applied? (lawful : record.Lawful) (confined : migration.Confined record)
    (readable : record.names database = some names)
    (applies : migration.applied? record database = some after) :
    ∃ more, record.names after = some more ∧ NamesOf more names [migration.name] := by
  -- While the statements run, the names are those before them and perhaps the change's own.
  suffices statements : ∀ (rest : List (Statement δ)) (current : δ) (held : List String),
      rest ⊆ migration.statements → record.names current = some held → names ⊆ held →
      (∀ other ∈ held, other ∈ names ∨ other = migration.name) →
      (rest ++ [record.add migration.name]).foldlM
        (fun database statement => statement database) current = some after →
      ∃ more, record.names after = some more ∧ NamesOf more names [migration.name] from
    statements migration.statements database names (List.Subset.refl _) readable
      (List.Subset.refl _) (fun _ member => .inl member) applies
  intro rest
  induction rest with
  | nil =>
      intro current held _ isHeld kept ownOnly runs
      have adds : record.add migration.name current = some after := by
        simpa using runs
      obtain ⟨more, readsMore, gains⟩ := lawful.added isHeld adds
      refine ⟨more, readsMore, fun other => ?_⟩
      rw [gains, List.mem_singleton]
      constructor
      · rintro (inHeld | isOwn)
        · exact ownOnly other inHeld
        · exact .inr isOwn
      · exact Or.imp_left fun inNames => kept inNames
  | cons statement rest inductionHypothesis =>
      intro current held ofMigration isHeld kept ownOnly runs
      obtain ⟨isStatement, restOfMigration⟩ := List.cons_subset.mp ofMigration
      rw [List.cons_append, List.foldlM_cons, Option.bind_eq_bind,
        Option.bind_eq_some_iff] at runs
      obtain ⟨changed, changes, runsOn⟩ := runs
      obtain ⟨more, readsMore, keptMore, ownMore⟩ :=
        confined statement isStatement current changed held isHeld changes
      refine inductionHypothesis changed more restOfMigration readsMore
        (List.Subset.trans kept keptMore) (fun other member => ?_) runsOn
      rcases ownMore other member with inHeld | isOwn
      · exact ownOnly other inHeld
      · exact .inr isOwn

/-! ### A run over changes -/

section Unrecorded

variable {more others : List String} {rest : List (Migration δ)}

theorem names_unrecorded (names : List String) (migrations : List (Migration δ)) :
    (unrecorded names migrations).map Migration.name =
      (migrations.map Migration.name).filter fun name => name ∉ names := by
  rw [unrecorded, List.filter_map]
  rfl

theorem unrecorded_skip (held : migration.name ∈ names) :
    unrecorded names (migration :: rest) = unrecorded names rest :=
  List.filter_cons_of_neg (by simpa using held)

theorem unrecorded_take (absent : migration.name ∉ names) :
    unrecorded names (migration :: rest) = migration :: unrecorded names rest :=
  List.filter_cons_of_pos (by simpa using absent)

/-- Names of other changes make no difference. -/
theorem unrecorded_of_namesOf (gains : NamesOf more names others)
    (apart : ∀ migration ∈ migrations, migration.name ∉ others) :
    unrecorded more migrations = unrecorded names migrations := by
  refine List.filter_congr fun migration member => decide_eq_decide.mpr ?_
  rw [gains, not_or]
  exact and_iff_left (apart migration member)

/-- Changes among which a name does not occur. -/
theorem apart_of_fresh (fresh : migration.name ∉ migrations.map Migration.name) :
    ∀ other ∈ migrations, other.name ∉ [migration.name] := by
  intro other member own
  rw [← List.mem_singleton.mp own] at fresh
  exact fresh (List.mem_map_of_mem member)

theorem appliedAll?_cons (applies : migration.applied? record database = some after) :
    appliedAll? record (migration :: rest) database = appliedAll? record rest after := by
  rw [appliedAll?, List.foldlM_cons, applies]
  rfl

end Unrecorded

/-- All changes that were not recorded were applied. -/
structure Completes (record : MigrationRecord δ) (migrations : List (Migration δ))
    (names : List String) (database : δ) (count : Nat) (after : δ) : Prop where
  applied : appliedAll? record (unrecorded names migrations) database = some after
  counted : count = (unrecorded names migrations).length
  recorded : ∃ more, record.names after = some more ∧
    NamesOf more names (migrations.map Migration.name)

/-- The changes before one that fails were applied, if they were not recorded. -/
structure Stops (record : MigrationRecord δ) (migrations : List (Migration δ))
    (names : List String) (database : δ) (before : List (Migration δ)) (failing : Migration δ)
    (rest : List (Migration δ)) (after : δ) : Prop where
  parts : migrations = before ++ failing :: rest
  applied : appliedAll? record (unrecorded names before) database = some after
  recorded : ∃ more, record.names after = some more ∧
    NamesOf more names (before.map Migration.name)
  isPending : failing.name ∉ names
  fails : failing.applied? record after = none

section Steps

variable {more : List String} {changed : δ} {before rest : List (Migration δ)}
  {failing : Migration δ} {count : Nat}

theorem Completes.skip (completes : Completes record migrations names database count after)
    (held : migration.name ∈ names) :
    Completes record (migration :: migrations) names database count after := by
  obtain ⟨applied, counted, most, readsMost, gains⟩ := completes
  rw [← unrecorded_skip held] at applied counted
  exact ⟨applied, counted, most, readsMost, gains.skip held⟩

theorem Stops.skip (stops : Stops record migrations names database before failing rest after)
    (held : migration.name ∈ names) :
    Stops record (migration :: migrations) names database (migration :: before) failing rest
      after := by
  obtain ⟨parts, applied, ⟨most, readsMost, gains⟩, isPending, fails⟩ := stops
  rw [← unrecorded_skip held] at applied
  exact ⟨by rw [parts]; rfl, applied, ⟨most, readsMost, gains.skip held⟩, isPending, fails⟩

section Taken

variable (absent : migration.name ∉ names)
  (fresh : migration.name ∉ migrations.map Migration.name)
  (applies : migration.applied? record database = some changed)
  (gains : NamesOf more names [migration.name])

include absent fresh applies gains

/-- The name that is recorded is of no change after it. -/
theorem appliedAll?_take {others : List (Migration δ)} (later : others ⊆ migrations)
    (runs : appliedAll? record (unrecorded more others) changed = some after) :
    appliedAll? record (unrecorded names (migration :: others)) database = some after := by
  have apart : ∀ other ∈ others, other.name ∉ [migration.name] := fun other member =>
    apart_of_fresh fresh other (later member)
  rw [unrecorded_take absent, appliedAll?_cons applies, ← unrecorded_of_namesOf gains apart, runs]

theorem Completes.take (completes : Completes record migrations more changed count after) :
    Completes record (migration :: migrations) names database (count + 1) after := by
  obtain ⟨applied, counted, most, readsMost, gainsMost⟩ := completes
  refine ⟨appliedAll?_take absent fresh applies gains (List.Subset.refl _) applied, ?_, most,
    readsMost, gains.trans gainsMost⟩
  rw [unrecorded_take absent, List.length_cons, counted,
    unrecorded_of_namesOf gains (apart_of_fresh fresh)]

theorem Stops.take (stops : Stops record migrations more changed before failing rest after) :
    Stops record (migration :: migrations) names database (migration :: before) failing rest
      after := by
  obtain ⟨parts, applied, ⟨most, readsMost, gainsMost⟩, isPending, fails⟩ := stops
  have later : before ⊆ migrations := fun _ member => by
    rw [parts]
    exact List.mem_append_left _ member
  refine ⟨by rw [parts]; rfl, appliedAll?_take absent fresh applies gains later applied,
    ⟨most, readsMost, gains.trans gainsMost⟩, ?_, fails⟩
  exact fun inNames => isPending ((gains _).mpr (.inl inNames))

end Taken

end Steps

/-- What a run comes to where names can be read. The induction is on the changes; one that
happens adds its name, which none of the later ones has. -/
theorem applyPending_cases (lawful : record.Lawful)
    (distinct : (migrations.map Migration.name).Nodup)
    (confined : ∀ migration ∈ migrations, migration.Confined record)
    (readable : record.names database = some names) :
    (∃ count after, applyPending record migrations database = (.ok count, after) ∧
        Completes record migrations names database count after) ∨
      ∃ before failing rest after,
        applyPending record migrations database =
            (.error (.executionFailed failing.name), after) ∧
          Stops record migrations names database before failing rest after := by
  induction migrations generalizing database names with
  | nil => exact .inl ⟨0, database, rfl, rfl, rfl, names, readable, NamesOf.self names⟩
  | cons migration rest inductionHypothesis =>
      obtain ⟨fresh, restDistinct⟩ := List.nodup_cons.mp distinct
      obtain ⟨confinedHere, confinedRest⟩ := List.forall_mem_cons.mp confined
      rw [applyPending, readable]
      simp only
      by_cases held : migration.name ∈ names
      · rw [if_pos (List.contains_iff_mem.mpr held)]
        rcases inductionHypothesis restDistinct confinedRest readable with
          ⟨count, after, runs, completes⟩ | ⟨before, failing, later, after, runs, stops⟩
        · exact .inl ⟨count, after, runs, completes.skip held⟩
        · exact .inr ⟨migration :: before, failing, later, after, runs, stops.skip held⟩
      · rw [if_neg (by simpa using held), transaction_eq]
        cases applies : migration.applied? record database with
        | none =>
            exact .inr ⟨[], migration, rest, database, rfl, rfl, rfl,
              ⟨names, readable, NamesOf.self names⟩, held, applies⟩
        | some changed =>
            obtain ⟨more, readsMore, gains⟩ :=
              names_of_applied? lawful confinedHere readable applies
            simp only
            rcases inductionHypothesis restDistinct confinedRest readsMore with
              ⟨count, after, runs, completes⟩ | ⟨before, failing, later, after, runs, stops⟩
            · exact .inl ⟨count + 1, after, by rw [runs]; rfl,
                completes.take held fresh applies gains⟩
            · exact .inr ⟨migration :: before, failing, later, after, by rw [runs]; rfl,
                stops.take held fresh applies gains⟩

/-! ### Whole runs -/

/-- A run that succeeds has applied the changes that were not recorded, once each and in their
order. Every change is recorded then, and a run after it has nothing to do. -/
structure RunSucceeds (record : MigrationRecord δ) (migrations : List (Migration δ))
    (database : δ) (count : Nat) (after : δ) : Prop where
  applied : ∃ prepared, record.prepare database = some prepared ∧
    appliedAll? record (pending record database migrations) prepared = some after
  counted : count = (pending record database migrations).length
  recorded : ∀ migration ∈ migrations, record.Has migration.name after
  again : run record migrations after = (.ok 0, after)

/-- A run that fails at a change has applied those before it that were not recorded, and left
nothing of the change itself. If a later run succeeds on a database with the same record, where
the changes have the same names, it applies the one that failed and those after it that were
not recorded. -/
structure RunFailsAt (record : MigrationRecord δ) (migrations : List (Migration δ))
    (database : δ) (cause : MigrationError) (before : List (Migration δ)) (failing : Migration δ)
    (rest : List (Migration δ)) (after : δ) : Prop where
  parts : migrations = before ++ failing :: rest
  applied : ∃ prepared, record.prepare database = some prepared ∧
    appliedAll? record (pending record database before) prepared = some after
  recorded : ∀ earlier ∈ before, record.Has earlier.name after
  isPending : ¬record.Has failing.name after
  fails : cause = .executionFailed failing.name ∧ failing.applied? record after = none ∨
    cause = .stateQuery ∧ record.names after = none
  resumes : ∀ (later : δ) (mended : List (Migration δ)) (count : Nat) (last : δ),
    record.names later = record.names after →
      mended.map Migration.name = migrations.map Migration.name →
      (∀ migration ∈ mended, migration.Confined record) →
      run record mended later = (.ok count, last) →
        RunSucceeds record mended later count last ∧
          (pending record later mended).map Migration.name =
            failing.name :: (pending record database rest).map Migration.name

section Whole

variable {prepared : δ} {more : List String} {count : Nat} {before rest : List (Migration δ)}
  {failing : Migration δ}

theorem unrecorded_nil (migrations : List (Migration δ)) :
    unrecorded [] migrations = migrations :=
  List.filter_eq_self.mpr (by simp)

theorem pending_of_readable (readable : record.names database = some names)
    (migrations : List (Migration δ)) :
    pending record database migrations = unrecorded names migrations := by
  rw [pending, readable, Option.getD_some]

/-- To make room for the record changes no name. -/
theorem pending_of_prepared (lawful : record.Lawful)
    (prepares : record.prepare database = some prepared)
    (readable : record.names prepared = some names) (migrations : List (Migration δ)) :
    pending record database migrations = unrecorded names migrations := by
  cases held : record.names database with
  | none =>
      rw [pending, held, lawful.opened held prepares readable]
      rfl
  | some namesBefore =>
      obtain rfl := lawful.prepared_eq held prepares
      exact pending_of_readable readable migrations

/-- Where every change is recorded a run does nothing. -/
theorem run_of_recorded (lawful : record.Lawful) (readable : record.names database = some names)
    (recorded : ∀ migration ∈ migrations, migration.name ∈ names) :
    run record migrations database = (.ok 0, database) := by
  rw [run, lawful.present readable]
  simp only
  induction migrations with
  | nil => rfl
  | cons migration rest inductionHypothesis =>
      obtain ⟨here, inRest⟩ := List.forall_mem_cons.mp recorded
      rw [applyPending, readable]
      simp only
      rw [if_pos (List.contains_iff_mem.mpr here)]
      exact inductionHypothesis inRest

theorem Completes.runSucceeds (lawful : record.Lawful)
    (prepares : record.prepare database = some prepared)
    (readable : record.names prepared = some names)
    (completes : Completes record migrations names prepared count after) :
    RunSucceeds record migrations database count after := by
  obtain ⟨applied, counted, more, readsMore, gains⟩ := completes
  have inMore : ∀ migration ∈ migrations, migration.name ∈ more := fun migration member =>
    (gains migration.name).mpr (.inr (List.mem_map_of_mem member))
  have samePending := pending_of_prepared lawful prepares readable migrations
  constructor
  case applied => exact ⟨prepared, prepares, by rw [samePending]; exact applied⟩
  case counted => rw [samePending, counted]
  case recorded => exact fun migration member => ⟨more, readsMore, inMore migration member⟩
  case again => exact run_of_recorded lawful readsMore inMore

/-- Where the names cannot be read there is no change that a run could apply. -/
theorem runSucceeds_of_ok (lawful : record.Lawful)
    (distinct : (migrations.map Migration.name).Nodup)
    (confined : ∀ migration ∈ migrations, migration.Confined record)
    (runs : run record migrations database = (.ok count, after)) :
    RunSucceeds record migrations database count after := by
  rw [run] at runs
  cases prepares : record.prepare database with
  | none =>
      rw [prepares] at runs
      cases runs
  | some prepared =>
      rw [prepares] at runs
      simp only at runs
      cases readable : record.names prepared with
      | some names =>
          rcases applyPending_cases lawful distinct confined readable with
            ⟨other, last, completed, completes⟩ | ⟨_, _, _, _, failed, _⟩
          · obtain ⟨sameCount, rfl⟩ := Prod.mk.inj (runs.symm.trans completed)
            obtain rfl := Except.ok.inj sameCount
            exact completes.runSucceeds lawful prepares readable
          · rw [failed] at runs
            cases runs
      | none =>
          cases migrations with
          | nil =>
              obtain ⟨sameCount, rfl⟩ := Prod.mk.inj runs
              obtain rfl := Except.ok.inj sameCount
              refine ⟨⟨prepared, prepares, rfl⟩, rfl, nofun, ?_⟩
              rw [run, lawful.prepared prepares]
              rfl
          | cons migration rest =>
              rw [applyPending, readable] at runs
              cases runs

/-- The changes that a later run finds: the one that failed and what was not recorded after it. -/
theorem Stops.unrecorded_after (stops : Stops record migrations names database before failing rest
      after) (distinct : (migrations.map Migration.name).Nodup)
    (gains : NamesOf more names (before.map Migration.name)) :
    unrecorded more migrations = failing :: unrecorded names rest := by
  rw [stops.parts, List.map_append, List.nodup_append] at distinct
  obtain ⟨_, restDistinct, apart⟩ := distinct
  have beforeDone : unrecorded more before = [] := by
    refine List.filter_eq_nil_iff.mpr fun migration member => ?_
    rw [decide_eq_true_eq, Decidable.not_not, gains]
    exact .inr (List.mem_map_of_mem member)
  have notBefore : ∀ migration ∈ failing :: rest, migration.name ∉ before.map Migration.name :=
    fun migration member inBefore =>
      apart _ inBefore _ (List.mem_map_of_mem member) rfl
  have sameRest := unrecorded_of_namesOf gains notBefore
  rw [unrecorded_take stops.isPending] at sameRest
  rw [stops.parts, unrecorded, List.filter_append, ← unrecorded, ← unrecorded, beforeDone, sameRest]
  rfl

theorem Stops.runFailsAt (lawful : record.Lawful)
    (distinct : (migrations.map Migration.name).Nodup)
    (prepares : record.prepare database = some prepared)
    (readable : record.names prepared = some names)
    (stops : Stops record migrations names prepared before failing rest after) :
    RunFailsAt record migrations database (.executionFailed failing.name) before failing rest
      after := by
  have samePending := pending_of_prepared lawful prepares readable
  obtain ⟨more, readsMore, gains⟩ := stops.recorded
  have left := stops.unrecorded_after distinct gains
  constructor
  case parts => exact stops.parts
  case applied => exact ⟨prepared, prepares, by rw [samePending]; exact stops.applied⟩
  case recorded =>
    exact fun earlier member => ⟨more, readsMore,
      (gains earlier.name).mpr (.inr (List.mem_map_of_mem member))⟩
  case isPending =>
    rintro ⟨held, reads, inHeld⟩
    obtain rfl := Option.some.inj (readsMore.symm.trans reads)
    have inLeft : failing ∈ unrecorded more migrations := left ▸ List.mem_cons_self
    exact of_decide_eq_true (List.mem_filter.mp inLeft).2 inHeld
  case fails => exact .inl ⟨rfl, stops.fails⟩
  case resumes =>
    intro later mended count last sameRecord sameNames confined runs
    rw [readsMore] at sameRecord
    refine ⟨runSucceeds_of_ok lawful (by rw [sameNames]; exact distinct) confined runs, ?_⟩
    rw [pending_of_readable sameRecord, samePending, names_unrecorded, sameNames,
      ← names_unrecorded, left]
    rfl

/-- Names that cannot be read stop a run at its first change. -/
theorem runFailsAt_of_unreadable (lawful : record.Lawful)
    (distinct : ((failing :: rest).map Migration.name).Nodup)
    (prepares : record.prepare database = some prepared)
    (unreadable : record.names prepared = none) :
    RunFailsAt record (failing :: rest) database .stateQuery [] failing rest prepared := by
  have noNames : record.names database = none := by
    cases held : record.names database with
    | none => rfl
    | some names =>
        obtain rfl := lawful.prepared_eq held prepares
        exact absurd held (by simp [unreadable])
  constructor
  case parts => rfl
  case applied => exact ⟨prepared, prepares, rfl⟩
  case recorded => exact nofun
  case isPending =>
    rintro ⟨held, reads, _⟩
    rw [unreadable] at reads
    cases reads
  case fails => exact .inr ⟨rfl, unreadable⟩
  case resumes =>
    intro later mended count last sameRecord sameNames confined runs
    refine ⟨runSucceeds_of_ok lawful (by rw [sameNames]; exact distinct) confined runs, ?_⟩
    rw [pending, pending, sameRecord, unreadable, noNames, Option.getD_none, unrecorded_nil,
      unrecorded_nil, sameNames]
    rfl

end Whole

/-- Changes with different names are applied exactly once, whatever their statements do besides,
and a change that fails leaves nothing. A run fails because there is no room for the record, or
at a change. -/
theorem run_applies_once (lawful : record.Lawful)
    (distinct : (migrations.map Migration.name).Nodup)
    (confined : ∀ migration ∈ migrations, migration.Confined record) (database : δ) :
    (∀ count after, run record migrations database = (.ok count, after) →
        RunSucceeds record migrations database count after) ∧
      ∀ cause after, run record migrations database = (.error cause, after) →
        record.prepare database = none ∧ cause = .executionFailed bootstrapName ∧
            after = database ∨
          ∃ before failing rest,
            RunFailsAt record migrations database cause before failing rest after := by
  refine ⟨fun count after runs => runSucceeds_of_ok lawful distinct confined runs,
    fun cause after runs => ?_⟩
  rw [run] at runs
  cases prepares : record.prepare database with
  | none =>
      rw [prepares] at runs
      obtain ⟨sameCause, rfl⟩ := Prod.mk.inj runs
      exact .inl ⟨rfl, (Except.error.inj sameCause).symm, rfl⟩
  | some prepared =>
      rw [prepares] at runs
      simp only at runs
      right
      cases readable : record.names prepared with
      | some names =>
          rcases applyPending_cases lawful distinct confined readable with
            ⟨_, _, completed, _⟩ | ⟨before, failing, rest, last, failed, stops⟩
          · rw [completed] at runs
            cases runs
          · obtain ⟨sameCause, rfl⟩ := Prod.mk.inj (runs.symm.trans failed)
            obtain rfl := Except.error.inj sameCause
            exact ⟨before, failing, rest, stops.runFailsAt lawful distinct prepares readable⟩
      | none =>
          cases migrations with
          | nil => cases runs
          | cons failing rest =>
              rw [applyPending, readable] at runs
              obtain ⟨sameCause, rfl⟩ := Prod.mk.inj runs
              obtain rfl := Except.error.inj sameCause
              exact ⟨[], failing, rest,
                runFailsAt_of_unreadable lawful distinct prepares readable⟩

end Runs

end Migration

/-- A change that records itself fails when its name is to be recorded. The table that it made
is gone with it, and only the change itself is left to be applied once it is mended. -/
theorem Migration.self_recording_change_leaves_nothing :
    let probe : Statement Catalog := Catalog.createTable ⟨"rollback_probe", [{ name := "id" }]⟩
    let broken := Catalog.migrations ++ [⟨"003_probe", [probe, Catalog.addRecord "003_probe"]⟩]
    let mended := Catalog.migrations ++ [⟨"003_probe", [probe]⟩]
    ∃ before failing rest after last,
      RunFailsAt Catalog.record broken {} (.executionFailed "003_probe") before failing rest
          after ∧
        after.tableNames = ["_pulse_migrations", "events", "settings"] ∧
        RunSucceeds Catalog.record mended after 1 last ∧
        last.tableNames = ["_pulse_migrations", "events", "rollback_probe", "settings"] := by
  intro probe broken mended
  have spares : Spares Catalog.record "003_probe" probe := Catalog.spares_createTable _
  have confinedBroken : ∀ migration ∈ broken, migration.Confined Catalog.record := by
    refine Catalog.confined_migrations_concat (List.forall_mem_cons.mpr ⟨spares, ?_⟩)
    exact List.forall_mem_singleton.mpr (Catalog.spares_addRecord _)
  have confinedMended : ∀ migration ∈ mended, migration.Confined Catalog.record :=
    Catalog.confined_migrations_concat (List.forall_mem_singleton.mpr spares)
  obtain ⟨_, fails⟩ :=
    run_applies_once Catalog.lawful_record (by decide) confinedBroken ({} : Catalog)
  rcases fails (.executionFailed "003_probe") _ (by rfl) with
    ⟨_, noRoom, _⟩ | ⟨before, failing, rest, failsAt⟩
  · exact absurd noRoom (by decide)
  · exact ⟨before, failing, rest, _, _, failsAt, by decide +kernel,
      (failsAt.resumes _ mended 1 _ rfl rfl confinedMended (by rfl)).1, by decide +kernel⟩

end Telemetry

import Telemetry.Database.Catalog

/-!
Contract: the record of applied changes can be relied on.

Owns:
- what is expected of a record, and of the statements of a change;
- that the record that a database keeps is as expected, and that the library's own changes
  leave it alone.

Does not own: runs.
-/

namespace Telemetry

variable {δ : Type}

/-! ### Records and confined changes -/

/-- Some names are those of two other lists together. -/
def NamesOf (all first second : List String) : Prop :=
  ∀ name, name ∈ all ↔ name ∈ first ∨ name ∈ second

namespace NamesOf

variable {all more names others : List String} {name : String}

theorem self (names : List String) : NamesOf names names [] := fun name => by
  simp

/-- A name that is there already changes nothing. -/
theorem skip (gains : NamesOf all names others) (held : name ∈ names) :
    NamesOf all names (name :: others) := by
  intro other
  rw [gains, List.mem_cons]
  constructor
  · exact Or.imp_right .inr
  · rintro (inNames | rfl | inOthers)
    · exact .inl inNames
    · exact .inl held
    · exact .inr inOthers

/-- One name and then others. -/
theorem trans (first : NamesOf more names [name]) (rest : NamesOf all more others) :
    NamesOf all names (name :: others) := by
  intro other
  rw [rest, first, List.mem_singleton, List.mem_cons, or_assoc]

end NamesOf

namespace MigrationRecord

/-- A name is in the record. -/
def Has (record : MigrationRecord δ) (name : String) (database : δ) : Prop :=
  ∃ names, record.names database = some names ∧ name ∈ names

/-- A record that can be relied on: room for it is made once and is empty, and a name is added
to those that are there. -/
structure Lawful (record : MigrationRecord δ) : Prop where
  prepared {database after : δ} :
    record.prepare database = some after → record.prepare after = some after
  present {database : δ} {names : List String} :
    record.names database = some names → record.prepare database = some database
  opened {database after : δ} {names : List String} :
    record.names database = none → record.prepare database = some after →
      record.names after = some names → names = []
  added {database after : δ} {name : String} {names : List String} :
    record.names database = some names → record.add name database = some after →
      ∃ more, record.names after = some more ∧ NamesOf more names [name]

/-- Where names can be read there is room for them already. -/
theorem Lawful.prepared_eq {record : MigrationRecord δ} (lawful : record.Lawful)
    {database after : δ} {names : List String} (readable : record.names database = some names)
    (prepares : record.prepare database = some after) : after = database :=
  Option.some.inj (prepares.symm.trans (lawful.present readable))

end MigrationRecord

namespace Migration

/-- Where names can be read, the statement takes no name away and adds at most this one. -/
def Spares (record : MigrationRecord δ) (name : String) (statement : Statement δ) : Prop :=
  ∀ database after names, record.names database = some names → statement database = some after →
    ∃ more, record.names after = some more ∧ names ⊆ more ∧
      ∀ other ∈ more, other ∈ names ∨ other = name

/-- The statements of the change leave the record alone, apart from the change's own name. -/
def Confined (record : MigrationRecord δ) (migration : Migration δ) : Prop :=
  ∀ statement ∈ migration.statements, Spares record migration.name statement

end Migration

/-! ### The record that a database keeps -/

namespace Catalog

variable {catalog : Catalog} {table : TableLayout} {names : List String}

theorem recorded_eq (readable : catalog.recorded = some names) :
    ∃ layout, catalog.table? recordTable = some layout ∧
      (layout.column? nameColumn).isSome ∧ catalog.applied = names := by
  obtain ⟨column, isColumn, same⟩ := Option.map_eq_some_iff.mp readable
  obtain ⟨layout, isTable, hasColumn⟩ := Option.bind_eq_some_iff.mp isColumn
  exact ⟨layout, isTable, Option.isSome_of_eq_some hasColumn, same⟩

/-- A table more hides no table. -/
theorem table?_withTable (catalog : Catalog) (table : TableLayout) {name : String}
    {layout : TableLayout} (isTable : catalog.table? name = some layout) :
    (catalog.withTable table).table? name = some layout := by
  rw [table?] at isTable
  rw [table?, withTable, List.find?_append, isTable, Option.some_or]

theorem table?_withTable_self {catalog : Catalog} {table : TableLayout}
    (absent : catalog.table? table.name = none) :
    (catalog.withTable table).table? table.name = some table := by
  rw [table?] at absent
  rw [table?, withTable, List.find?_append, absent, Option.none_or, List.find?_cons_of_pos]
  exact beq_self_eq_true _

theorem ensureTable_of_present {layout : TableLayout}
    (isTable : catalog.table? table.name = some layout) :
    ensureTable table catalog = some catalog := by
  rw [ensureTable, isTable]

theorem ensureTable_cases (table : TableLayout) (catalog : Catalog) :
    (∃ layout, catalog.table? table.name = some layout) ∧
        ensureTable table catalog = some catalog ∨
      catalog.table? table.name = none ∧
        ensureTable table catalog = some (catalog.withTable table) := by
  rw [ensureTable]
  cases catalog.table? table.name with
  | none => exact .inr ⟨rfl, rfl⟩
  | some layout => exact .inl ⟨⟨layout, rfl⟩, rfl⟩

/-- The record stays as it is when another table is made. -/
theorem recorded_withTable (readable : catalog.recorded = some names)
    (absent : catalog.table? table.name = none) :
    (catalog.withTable table).recorded = some names := by
  obtain ⟨layout, isTable, hasColumn, applied⟩ := recorded_eq readable
  have otherName : sameName table.name recordTable = false := by
    rw [← Bool.not_eq_true]
    intro same
    have isRecord := List.find?_some isTable
    have stored := List.mem_of_find?_eq_some isTable
    have differs := List.find?_eq_none.mp absent layout stored
    rw [sameName, beq_iff_eq] at same isRecord differs
    exact differs (isRecord.trans same.symm)
  have stays : (catalog.withTable table).applied = names := by
    rw [withTable, otherName]
    exact applied
  obtain ⟨column, isColumn⟩ := Option.isSome_iff_exists.mp hasColumn
  rw [recorded, table?_withTable catalog table isTable, Option.bind_some, isColumn, stays]
  rfl

theorem recorded_addRecord {name : String} {after : Catalog}
    (readable : catalog.recorded = some names) (adds : addRecord name catalog = some after) :
    after.recorded = some (names ++ [name]) := by
  obtain ⟨layout, isTable, hasColumn, applied⟩ := recorded_eq readable
  obtain ⟨column, isColumn⟩ := Option.isSome_iff_exists.mp hasColumn
  rw [addRecord, isTable, Option.bind_eq_bind, Option.bind_some, isColumn, Option.bind_eq_bind,
    Option.bind_some] at adds
  dsimp only at adds
  split at adds
  · cases adds
  · obtain rfl := Option.some.inj adds
    rw [recorded, table?]
    rw [table?] at isTable
    rw [isTable, Option.bind_some, isColumn, applied]
    rfl

/-- The table of the record is made at most once, and empty. -/
theorem lawful_record : record.Lawful where
  prepared := by
    intro database after prepares
    rcases ensureTable_cases recordLayout database with ⟨_, same⟩ | ⟨absent, made⟩
    · obtain rfl := Option.some.inj (same.symm.trans prepares)
      exact prepares
    · obtain rfl := Option.some.inj (made.symm.trans prepares)
      exact ensureTable_of_present (table?_withTable_self absent)
  present := by
    intro database names readable
    obtain ⟨layout, isTable, _, _⟩ := recorded_eq readable
    exact ensureTable_of_present isTable
  opened := by
    intro database after names unreadable prepares readable
    rcases ensureTable_cases recordLayout database with ⟨_, same⟩ | ⟨_, made⟩
    · obtain rfl := Option.some.inj (same.symm.trans prepares)
      have clash := unreadable.symm.trans readable
      cases clash
    · obtain rfl := Option.some.inj (made.symm.trans prepares)
      obtain ⟨_, _, _, applied⟩ := recorded_eq readable
      have isRecord : sameName recordLayout.name recordTable = true := beq_self_eq_true _
      rw [← applied, withTable, isRecord]
      rfl
  added := by
    intro database after name names readable adds
    exact ⟨_, recorded_addRecord readable adds, fun other => List.mem_append⟩

/-! ### Changes of a database -/

section Statements

open Migration

variable {name : String}

theorem spares_ensureTable (table : TableLayout) : Spares record name (ensureTable table) := by
  intro database after names readable makes
  refine ⟨names, ?_, List.Subset.refl _, fun _ member => .inl member⟩
  rcases ensureTable_cases table database with ⟨_, same⟩ | ⟨absent, made⟩
  · obtain rfl := Option.some.inj (same.symm.trans makes)
    exact readable
  · obtain rfl := Option.some.inj (made.symm.trans makes)
    exact recorded_withTable readable absent

theorem spares_createTable (table : TableLayout) : Spares record name (createTable table) := by
  intro database after names readable makes
  refine ⟨names, ?_, List.Subset.refl _, fun _ member => .inl member⟩
  rw [createTable] at makes
  cases absent : database.table? table.name with
  | some layout =>
      rw [absent] at makes
      cases makes
  | none =>
      rw [absent] at makes
      obtain rfl := Option.some.inj makes
      exact recorded_withTable readable absent

theorem spares_ensureIndex (index table column : String) :
    Spares record name (ensureIndex index table column) := by
  intro database after names readable makes
  have same : after = database := by
    rw [ensureIndex] at makes
    split at makes
    · cases makes
    · obtain ⟨_, _, same⟩ := Option.map_eq_some_iff.mp makes
      exact same.symm
  rw [same]
  exact ⟨names, readable, List.Subset.refl _, fun _ member => .inl member⟩

theorem spares_addRecord (name : String) : Spares record name (addRecord name) := by
  intro database after names readable adds
  refine ⟨_, recorded_addRecord readable adds, List.subset_append_left _ _, fun other member => ?_⟩
  exact (List.mem_append.mp member).imp_right List.mem_singleton.mp

/-- The library's own changes leave the record alone. -/
theorem confined_migrations : ∀ migration ∈ migrations, migration.Confined record := by
  simp only [migrations, Confined, List.forall_mem_cons, List.not_mem_nil, false_implies,
    implies_true, and_true]
  exact ⟨spares_ensureTable _, ⟨spares_ensureTable _, spares_ensureIndex _ _ _⟩,
    spares_ensureTable _⟩

/-- Another change after those of the library. -/
theorem confined_migrations_concat {migration : Migration Catalog}
    (confined : migration.Confined record) :
    ∀ other ∈ migrations ++ [migration], other.Confined record :=
  List.forall_mem_append.mpr ⟨confined_migrations, List.forall_mem_singleton.mpr confined⟩

end Statements

end Catalog

end Telemetry

import Telemetry.Database.Migration
import Telemetry.Entries
import Telemetry.Text.Blank

/-!
Contract: the tables of a database and the changes that lay them out.

Owns:
- tables with their columns, made, dropped and looked up without regard to the
  case of letters;
- the rows of the table that records applied changes;
- the library's own changes: that table, the queue of events, and the settings.

Does not own: the rows of other tables.
-/

namespace Telemetry

/-- A column: whether a row must give it a value, and whether values may occur
only once. -/
structure Column where
  name : String
  isRequired : Bool := false
  isUnique : Bool := false
deriving DecidableEq, Repr

structure TableLayout where
  name : String
  columns : List Column
deriving DecidableEq, Repr

/-- Two names are one if they differ only in the case of ASCII letters. -/
def sameName (first second : String) : Bool :=
  first.toList.map Char.toLower == second.toList.map Char.toLower

namespace Column

/-- The characters that stand around a quoted name. -/
def isQuote (character : Char) : Bool :=
  character == '"' || character == '\x60' || character == '[' || character == ']'

def wordsOf (definition : String) : List String :=
  let separated := definition.toList.map fun character =>
    if Text.isBlank character || character == '(' || character == ')' then ' ' else character
  ((String.ofList separated).splitOn " ").filter fun word => !word.isEmpty

/-- The words in `wanted` follow each other somewhere. -/
def haveInOrder (wanted : List String) : List String → Bool
  | [] => false
  | word :: rest => wanted.isPrefixOf (word :: rest) || haveInOrder wanted rest

/-- The column of a definition: a name, a type and constraints. A whole number
that is the primary key is given a value by the database. -/
def ofDefinition (definition : String) : Column :=
  let words := wordsOf definition
  let name := String.ofList (((words.headD "").toList).filter fun character =>
    !isQuote character)
  let upper := words.map fun word => String.ofList (word.toList.map Char.toUpper)
  let isRow := haveInOrder ["INTEGER", "PRIMARY", "KEY"] upper
  { name := name
    isRequired := haveInOrder ["NOT", "NULL"] upper && !upper.contains "DEFAULT" && !isRow
    isUnique := upper.contains "UNIQUE" || haveInOrder ["PRIMARY", "KEY"] upper }

end Column

namespace TableLayout

def column? (layout : TableLayout) (name : String) : Option Column :=
  layout.columns.find? fun column => sameName column.name name

end TableLayout

/-- The tables of a database, and the names in the record of changes in the
order in which they were added. -/
structure Catalog where
  tables : List TableLayout := []
  applied : List String := []
deriving DecidableEq, Repr

namespace Catalog

def table? (catalog : Catalog) (name : String) : Option TableLayout :=
  catalog.tables.find? fun table => sameName table.name name

/-- The name of the table that records changes. -/
def recordTable : String := "_pulse_migrations"

/-- The column of that table that holds the names. -/
def nameColumn : String := "name"

/-- The catalog with a table more, which has no rows. -/
def withTable (table : TableLayout) (catalog : Catalog) : Catalog where
  tables := catalog.tables ++ [table]
  applied := if sameName table.name recordTable then [] else catalog.applied

/-- Makes a table; it fails if there is one with the name. -/
def createTable (table : TableLayout) (catalog : Catalog) : Option Catalog :=
  match catalog.table? table.name with
  | some _ => none
  | none => some (catalog.withTable table)

/-- Makes a table unless there is one with the name. -/
def ensureTable (table : TableLayout) (catalog : Catalog) : Option Catalog :=
  match catalog.table? table.name with
  | some _ => some catalog
  | none => some (catalog.withTable table)

/-- Makes an index on a column of a table. It fails if there is no such column,
or a table has the name of the index. Indexes are not listed. -/
def ensureIndex (index table column : String) (catalog : Catalog) : Option Catalog :=
  if (catalog.table? index).isSome then
    none
  else
    ((catalog.table? table).bind fun layout => layout.column? column).map fun _ => catalog

/-- Drops a table with its rows; it fails if there is none with the name. -/
def dropTable (name : String) (catalog : Catalog) : Option Catalog :=
  match catalog.table? name with
  | none => none
  | some _ => some {
      tables := catalog.tables.filter fun table => !sameName table.name name
      applied := if sameName name recordTable then [] else catalog.applied }

/-- The recorded names; they cannot be read if there is no table or column for
them. -/
def recorded (catalog : Catalog) : Option (List String) :=
  ((catalog.table? recordTable).bind fun table => table.column? nameColumn).map fun _ =>
    catalog.applied

/-- The recorded names in the order of their numbers, which must have a column
too. -/
def listed (catalog : Catalog) : List String :=
  match (catalog.table? recordTable).bind fun table => table.column? "id" with
  | none => []
  | some _ => catalog.recorded.getD []

/-- Adds a name to the record. It fails if there is no place for it, another
column needs a value, or the name may occur only once and is there. -/
def addRecord (name : String) (catalog : Catalog) : Option Catalog := do
  let table ← catalog.table? recordTable
  let column ← table.column? nameColumn
  let othersNeedValues := table.columns.any fun other =>
    other.isRequired && !sameName other.name nameColumn
  if othersNeedValues || (column.isUnique && catalog.applied.contains name) then
    none
  else
    some { catalog with applied := catalog.applied ++ [name] }

/-- Takes a name out of the record; the answer counts the rows. -/
def forget (name : String) (catalog : Catalog) : Option (Nat × Catalog) :=
  catalog.recorded.map fun names =>
    (names.count name, { catalog with applied := names.filter fun held => held != name })

/-- The layout of the table that records changes. -/
def recordLayout : TableLayout where
  name := recordTable
  columns := [
    { name := "id", isUnique := true },
    { name := nameColumn, isRequired := true, isUnique := true },
    { name := "applied_at" }]

def eventsLayout : TableLayout where
  name := "events"
  columns := [
    { name := "id", isUnique := true },
    { name := "payload_json", isRequired := true },
    { name := "inserted_at_ms", isRequired := true }]

def settingsLayout : TableLayout where
  name := "settings"
  columns := [
    { name := "namespace", isRequired := true },
    { name := "key", isRequired := true },
    { name := "value_json", isRequired := true },
    { name := "updated_at" }]

def record : MigrationRecord Catalog where
  prepare := ensureTable recordLayout
  names := recorded
  add := addRecord

/-- The library's changes, in order. -/
def migrations : List (Migration Catalog) := [
  { name := "000_init", statements := [ensureTable recordLayout] },
  { name := "001_events",
    statements := [
      ensureTable eventsLayout,
      ensureIndex "idx_events_inserted_at" "events" "inserted_at_ms"] },
  { name := "002_settings", statements := [ensureTable settingsLayout] }]

/-- Applies the library's changes. -/
def migrate (catalog : Catalog) : Except MigrationError Nat × Catalog :=
  Migration.run record migrations catalog

/-- The names of the tables, sorted. -/
def tableNames (catalog : Catalog) : List String :=
  (Entries.ofPairs (catalog.tables.map fun table => (table.name, ()))).keys

end Catalog

end Telemetry

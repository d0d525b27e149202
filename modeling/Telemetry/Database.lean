import Telemetry.Database.Catalog
import Telemetry.Queue.Table
import Telemetry.Settings.Table

/-!
Contract: a database file that holds a queue and settings between launches.

Owns: the file's contents, opening it with its layout brought up to date, and
the number of connections that are kept.

Does not own: the form of the file.
-/

namespace Telemetry

/-- How a database is opened: how long to wait for a lock, in milliseconds, and
the most connections that are kept. -/
structure DatabaseSettings where
  busyTimeout : Nat := 5000
  connections : Nat := 4
deriving DecidableEq, Repr

/-- At least one connection is kept. -/
def DatabaseSettings.kept (settings : DatabaseSettings) : Nat := max settings.connections 1

/-- The contents of a file. -/
structure Database where
  catalog : Catalog := {}
  queue : TableQueue := .empty
  settings : SettingsTable := .empty

namespace Database

/-- Brings the layout up to date; the answer counts the changes that were
applied. -/
def migrate (database : Database) : Except MigrationError Nat × Database :=
  let (answer, catalog) := database.catalog.migrate
  (answer, { database with catalog := catalog })

end Database

end Telemetry

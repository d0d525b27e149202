import Telemetry.Json.Parser
import Telemetry.Json.Printer
import Telemetry.Settings

/-!
Contract: records that are kept in a database table as JSON text.

Owns: reading, writing, removal, and the move of a legacy record in one
transaction, with the failures of each.

Does not own: the database that holds the table. A table that was dropped fails
every call.
-/

namespace Telemetry

/-- The rows of the table, or nothing if there is no such table. -/
structure SettingsTable where
  rows : Option (Records String)
deriving DecidableEq, Repr

namespace SettingsTable

def empty : SettingsTable := ⟨some []⟩

def dropped : SettingsTable := ⟨none⟩

def readRow (rows : Records String) (key : SettingsKey) : Except SettingsError (Option Json) :=
  match rows.get? key with
  | none => .ok none
  | some text =>
    match Json.parse? text with
    | some value => .ok (some value)
    | none => .error .unreadable

def get (table : SettingsTable) (key : SettingsKey) : Except SettingsError (Option Json) :=
  match table.rows with
  | none => .error .noTable
  | some rows => readRow rows key

def setText (table : SettingsTable) (key : SettingsKey) (text : String) :
    Except SettingsError SettingsTable :=
  match table.rows with
  | none => .error .noTable
  | some rows => .ok ⟨some (rows.put key text)⟩

def set (table : SettingsTable) (key : SettingsKey) (value : Json) :
    Except SettingsError SettingsTable :=
  table.setText key value.text

def remove (table : SettingsTable) (key : SettingsKey) :
    Except SettingsError SettingsTable :=
  match table.rows with
  | none => .error .noTable
  | some rows => .ok ⟨some (rows.erase key)⟩

/-- Moves the legacy record of the key's name to the key, through `transform`,
unless the key has a record, there is no legacy record, or `transform` refuses
it. A failure leaves the table as it was. -/
def migrate
    (table : SettingsTable)
    (key : SettingsKey)
    (transform : Json → Option Json) :
    Except SettingsError (Bool × SettingsTable) := do
  if (← table.get key).isSome then
    return (false, table)
  match (← table.get (.legacy key.name)).bind transform with
  | none => return (false, table)
  | some moved =>
    let written ← table.set key moved
    let moved ← written.remove (.legacy key.name)
    return (true, moved)

end SettingsTable

end Telemetry

import Telemetry.Settings

/-!
Contract: records that are kept in process memory as values.

Owns: reading, writing, removal, and the move of a legacy record.

Does not own: failures; no call on memory fails.
-/

namespace Telemetry

/-- Records as values. -/
structure MemorySettings where
  records : Records Json
deriving DecidableEq, Repr

namespace MemorySettings

def empty : MemorySettings := ⟨[]⟩

def get (settings : MemorySettings) (key : SettingsKey) : Option Json :=
  settings.records.get? key

def set (settings : MemorySettings) (key : SettingsKey) (value : Json) : MemorySettings :=
  ⟨settings.records.put key value⟩

def remove (settings : MemorySettings) (key : SettingsKey) : MemorySettings :=
  ⟨settings.records.erase key⟩

/-- Moves the legacy record of the key's name to the key, through `transform`,
unless the key has a record, there is no legacy record, or `transform` refuses
it. The answer says whether a record was moved. -/
def migrate
    (settings : MemorySettings)
    (key : SettingsKey)
    (transform : Json → Option Json) :
    Bool × MemorySettings :=
  if settings.records.contains key then
    (false, settings)
  else
    match (settings.get (.legacy key.name)).bind transform with
    | none => (false, settings)
    | some moved => (true, (settings.set key moved).remove (.legacy key.name))

end MemorySettings

end Telemetry

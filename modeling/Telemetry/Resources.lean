import Telemetry.Notification
import Telemetry.Settings.Store
import Telemetry.Uuid

/-!
Contract: what a tracker shares with the program around it.

Owns: the settings store, the bus and the source of identifiers as one value,
and the calls that act on one of them.

Does not own: who uses them.
-/

namespace Telemetry

structure Resources where
  settings : SettingsStore
  bus : Bus
  uuids : UuidSource

namespace Resources

def read (resources : Resources) (key : SettingsKey) :
    Except SettingsError (Option Json) × Resources :=
  let (answer, settings) := resources.settings.get key
  (answer, { resources with settings := settings })

def write (resources : Resources) (key : SettingsKey) (value : Json) :
    Except SettingsError Unit × Resources :=
  let (answer, settings) := resources.settings.set key value
  (answer, { resources with settings := settings })

/-- Moves a legacy record to a key. -/
def migrate (resources : Resources) (key : SettingsKey) (transform : Json → Option Json) :
    Except SettingsError Bool × Resources :=
  let (answer, settings) := resources.settings.migrate key transform
  (answer, { resources with settings := settings })

def publish (resources : Resources) (notification : Notification) : Resources :=
  { resources with bus := resources.bus.publish notification }

/-- A new identifier. -/
def draw (resources : Resources) : Uuid × Resources :=
  let (uuid, uuids) := resources.uuids.draw
  (uuid, { resources with uuids := uuids })

end Resources

end Telemetry

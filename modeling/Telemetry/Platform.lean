import Telemetry.Decimal.Digits
import Telemetry.Entity
import Telemetry.Schemas
import Telemetry.Text.Blank

/-!
Contract: the device and platform of an application, as properties that are read
and kept for a while.

Owns:
- the properties, their keys and their types;
- the three groups of properties, and when a group is read again;
- the entity of the present properties.

Does not own: where the texts of properties come from.
-/

namespace Telemetry

/-- A property of the device or the platform. -/
inductive PlatformProperty where
  | osType
  | osVersion
  | deviceModel
  | deviceManufacturer
  | carrier
  | networkType
  | networkTechnology
  | batteryLevel
  | batteryState
  | lowPowerMode
  | availableStorage
  | totalStorage
  | physicalMemory
  | appAvailableMemory
deriving DecidableEq, Repr

namespace PlatformProperty

def key : PlatformProperty → String
  | .osType => "osType"
  | .osVersion => "osVersion"
  | .deviceModel => "deviceModel"
  | .deviceManufacturer => "deviceManufacturer"
  | .carrier => "carrier"
  | .networkType => "networkType"
  | .networkTechnology => "networkTechnology"
  | .batteryLevel => "batteryLevel"
  | .batteryState => "batteryState"
  | .lowPowerMode => "lowPowerMode"
  | .availableStorage => "availableStorage"
  | .totalStorage => "totalStorage"
  | .physicalMemory => "physicalMemory"
  | .appAvailableMemory => "appAvailableMemory"

def all : List PlatformProperty :=
  [.osType, .osVersion, .deviceModel, .deviceManufacturer, .carrier, .networkType,
    .networkTechnology, .batteryLevel, .batteryState, .lowPowerMode, .availableStorage,
    .totalStorage, .physicalMemory, .appAvailableMemory]

/-- The properties that are read once. -/
def fixed : List PlatformProperty := [.osType, .osVersion, .deviceModel, .deviceManufacturer]

/-- The properties of the device that change. -/
def mobile : List PlatformProperty :=
  [.batteryLevel, .batteryState, .lowPowerMode, .availableStorage, .totalStorage,
    .physicalMemory, .appAvailableMemory]

def network : List PlatformProperty := [.carrier, .networkType, .networkTechnology]

/-- A whole number in the range of a signed 64-bit number. -/
def numberOf? (raw : String) : Option Json :=
  ((Decimal.readInt? (Text.trim raw)).filter fun value =>
    decide (Json.leastSigned ≤ value) && decide (value ≤ Json.greatestSigned)).map .integer

/-- One of the two words for a truth value. -/
def flagOf? (raw : String) : Option Json :=
  match Text.trim raw with
  | "true" => some (.bool true)
  | "false" => some (.bool false)
  | _ => none

/-- The value of a text, by the type of the property. -/
def value? (property : PlatformProperty) (raw : String) : Option Json :=
  match property with
  | .batteryLevel | .availableStorage | .totalStorage | .physicalMemory | .appAvailableMemory =>
    numberOf? raw
  | .lowPowerMode => flagOf? raw
  | _ => some (.string raw)

end PlatformProperty

abbrev PropertySource := PlatformProperty → Option String

/-- How long a group is kept, in milliseconds. -/
structure RefreshWindows where
  mobile : Nat := 1000
  network : Nat := 10000
deriving DecidableEq, Repr

/-- The values of a group, and when they were read. -/
structure PropertyGroup where
  values : List (PlatformProperty × Json) := []
  fetchedAt : Option Nat := none
deriving DecidableEq, Repr

namespace PropertyGroup

/-- The group does not need to be read at an instant. A group without a window is
read once. -/
def isFresh (group : PropertyGroup) (window : Option Nat) (now : Nat) : Bool :=
  match group.fetchedAt, window with
  | none, _ => false
  | some _, none => true
  | some fetched, some window => decide (now - fetched < window)

/-- The values that a source has for properties. -/
def fetch (source : PropertySource) (properties : List PlatformProperty) :
    List (PlatformProperty × Json) :=
  properties.filterMap fun property =>
    ((source property).bind property.value?).map fun value => (property, value)

/-- The group at an instant, and the properties that were read for it. -/
def refresh
    (group : PropertyGroup)
    (source : PropertySource)
    (properties : List PlatformProperty)
    (window : Option Nat)
    (now : Nat) :
    PropertyGroup × List PlatformProperty :=
  if group.isFresh window now then
    (group, [])
  else
    (⟨fetch source properties, some now⟩, properties)

/-- The values under their keys. -/
def pairs (group : PropertyGroup) : List (String × Json) :=
  group.values.map fun entry => (entry.1.key, entry.2)

end PropertyGroup

/-- The three groups with the windows of two of them. -/
structure PlatformContext where
  windows : RefreshWindows := {}
  fixed : PropertyGroup := {}
  mobile : PropertyGroup := {}
  network : PropertyGroup := {}
deriving DecidableEq, Repr

namespace PlatformContext

/-- The groups at an instant, and the properties that were read. -/
def refresh (context : PlatformContext) (source : PropertySource) (now : Nat) :
    PlatformContext × List PlatformProperty :=
  let (fixed, first) := context.fixed.refresh source PlatformProperty.fixed none now
  let (mobile, second) :=
    context.mobile.refresh source PlatformProperty.mobile
      (some context.windows.mobile) now
  let (network, third) :=
    context.network.refresh source PlatformProperty.network
      (some context.windows.network) now
  ({ context with fixed := fixed, mobile := mobile, network := network },
    first ++ second ++ third)

/-- The entity of the present properties; there is none without any. -/
def entity? (context : PlatformContext) : Option Entity :=
  let pairs := context.fixed.pairs ++ context.mobile.pairs ++ context.network.pairs
  if pairs.isEmpty then none else some ⟨Schemas.mobileContext, Entries.ofPairs pairs⟩

end PlatformContext

end Telemetry

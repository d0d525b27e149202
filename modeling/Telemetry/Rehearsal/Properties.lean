import Telemetry.Json.Members
import Telemetry.Platform

/-!
Contract: devices whose properties are listed in forms.

Owns: the listed properties, changes to them, and what the device answers.

Does not own: which properties there are; others are kept and never asked for.
-/

namespace Telemetry.Rehearsal

/-- Raw texts of properties under their keys. -/
abbrev Properties := Entries String String

/-- The properties after a change: null removes one. -/
def Properties.changed (properties : Properties) (form : Json) : Properties :=
  (form.asObject?.getD []).foldl
    (fun properties entry =>
      match entry.2.asString? with
      | some raw => Entries.insert properties entry.1 raw
      | none => Entries.erase properties entry.1)
    properties

/-- What a device with these properties answers. -/
def Properties.source (properties : Properties) : PropertySource := fun property =>
  Entries.get? properties property.key

/-- The keys of properties that were read. -/
def readForm (reads : List PlatformProperty) : Json :=
  .array (reads.map fun property => .string property.key)

end Telemetry.Rehearsal

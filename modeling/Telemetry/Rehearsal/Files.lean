import Telemetry.Configuration.Reader
import Telemetry.Hexadecimal
import Telemetry.Json.Members

/-!
Contract: configuration files and environments that are given in forms.

Owns: the contents of a file as text or as bytes, files that cannot be read, and
the variables of an environment.

Does not own: what is read from them.
-/

namespace Telemetry.Rehearsal

def bytesOf : List Char → List UInt8
  | high :: low :: rest =>
    let value (digit : Char) : Nat := (Hexadecimal.value? digit).getD 0
    UInt8.ofNat (value high * 16 + value low) :: bytesOf rest
  | _ => []

/-- The configuration file of a form, if it names one. -/
def configurationFile? (form : Json) : Option FileContents :=
  match form.textAt? "toml", form.textAt? "toml_hex", form.textAt? "file" with
  | some text, _, _ => some (.read text)
  | none, some digits, _ => some (.ofBytes ⟨(bytesOf digits.toList).toArray⟩)
  | none, none, some "missing" => some .missing
  | none, none, some "directory" => some .unreadable
  | none, none, _ => none

def configurationOf (form : Json) : Except ConfigurationError Configuration :=
  Configuration.load (configurationFile? form) (form.memberOrNull "env").textAt?

end Telemetry.Rehearsal

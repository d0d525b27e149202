import Telemetry.Text.Printable

/-!
Contract: a text in double quotes, so that a message can show it unambiguously.

Owns: the spelling of one character inside the quotes, and the quoted text.

Does not own: the table of characters that are shown as themselves.
-/

namespace Telemetry.Text

/-- The code point in braces after a backslash and `u`, in lower-case hexadecimal. -/
def byCodePoint (character : Char) : List Char :=
  ['\\', 'u', '\x7b'] ++ Nat.toDigits 16 character.toNat ++ ['\x7d']

def quotedCharacter (character : Char) : List Char :=
  match character with
  | '"' => ['\\', '"']
  | '\\' => ['\\', '\\']
  | '\n' => ['\\', 'n']
  | '\r' => ['\\', 'r']
  | '\t' => ['\\', 't']
  | '\x00' => ['\\', '0']
  | other => if isPrintable other then [other] else byCodePoint other

def quoted (text : String) : String :=
  String.ofList (['"'] ++ text.toList.flatMap quotedCharacter ++ ['"'])

example : quoted "a\"b\n" = "\"a\\\"b\\n\"" := by decide +kernel

end Telemetry.Text

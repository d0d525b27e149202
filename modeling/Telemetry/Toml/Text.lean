import Telemetry.Hexadecimal
import Telemetry.Toml.Blank

/-!
Contract: texts of the TOML data format.

Owns: texts on one line and on several, with escapes between double quotes and
without between single ones.

Does not own: bare keys.
-/

namespace Telemetry.Toml

/-- The character with a code, which must not be half of a surrogate pair. -/
def scalar? (code : Nat) : Option Char :=
  if decide (code < 0xD800) || (decide (0xDFFF < code) && decide (code < 0x110000)) then
    some (Char.ofNat code)
  else
    none

/-- The character whose code is written in so many hexadecimal digits. -/
def readCode (count : Nat) : Reader Char := fun characters => do
  let digits := characters.take count
  if digits.length = count then
    let code ← Hexadecimal.number? digits
    let character ← scalar? code
    some (character, characters.drop count)
  else
    none

/-- The character of an escape, after the backslash. -/
def readEscape : Reader Char
  | 'b' :: rest => some ('\x08', rest)
  | 't' :: rest => some ('\x09', rest)
  | 'n' :: rest => some ('\x0a', rest)
  | 'f' :: rest => some ('\x0c', rest)
  | 'r' :: rest => some ('\x0d', rest)
  | '"' :: rest => some ('"', rest)
  | '\\' :: rest => some ('\\', rest)
  | 'u' :: rest => readCode 4 rest
  | 'U' :: rest => readCode 8 rest
  | _ => none

/-- A backslash between these quotes starts an escape. -/
def hasEscapes (quote : Char) : Bool := quote == '"'

/-- The characters up to the closing quote on the same line, at most `bound` of
them. -/
def readLineCharacters (quote : Char) : (bound : Nat) → Reader (List Char)
  | 0, _ => none
  | _ + 1, [] => none
  | bound + 1, character :: rest =>
    if character = quote then
      some ([], rest)
    else if hasEscapes quote && character = '\\' then do
      let (read, rest) ← readEscape rest
      let (others, rest) ← readLineCharacters quote bound rest
      some (read :: others, rest)
    else if isPlain character then do
      let (others, rest) ← readLineCharacters quote bound rest
      some (character :: others, rest)
    else
      none

/-- A text on one line, after its opening quote. -/
def readLineText (quote : Char) : Reader String := fun characters => do
  let (read, rest) ← readLineCharacters quote (characters.length + 1) characters
  some (String.ofList read, rest)

/-- What follows a folded line end: blanks, the line end, and all blanks and line
ends after it. -/
def afterFold? (characters : List Char) : Option (List Char) :=
  (afterNewline? (skipSpace characters)).map skipBlankLines

/-- The characters up to three closing quotes, in at most `bound` steps. One or
two quotes stand for themselves, also right before the closing ones. A line end
is a line feed, however it is written. -/
def readBlockCharacters (quote : Char) : (bound : Nat) → Reader (List Char)
  | 0, _ => none
  | _ + 1, [] => none
  | bound + 1, character :: rest =>
    let characters := character :: rest
    if character = quote then
      let quotes := characters.takeWhile (· == quote)
      if quotes.length < 3 then do
        let (others, rest) ← readBlockCharacters quote bound (characters.drop quotes.length)
        some (quotes ++ others, rest)
      else
        some (List.replicate (min (quotes.length - 3) 2) quote,
          characters.drop (min quotes.length 5))
    else if hasEscapes quote && character = '\\' then
      match afterFold? rest with
      | some rest => readBlockCharacters quote bound rest
      | none => do
        let (read, rest) ← readEscape rest
        let (others, rest) ← readBlockCharacters quote bound rest
        some (read :: others, rest)
    else
      match afterNewline? characters with
      | some rest => do
        let (others, rest) ← readBlockCharacters quote bound rest
        some ('\n' :: others, rest)
      | none =>
        if isPlain character then do
          let (others, rest) ← readBlockCharacters quote bound rest
          some (character :: others, rest)
        else
          none

/-- A text on several lines, after its opening quotes. A line end right after
them is left out. -/
def readBlockText (quote : Char) : Reader String := fun characters => do
  let body := (afterNewline? characters).getD characters
  let (read, rest) ← readBlockCharacters quote (body.length + 1) body
  some (String.ofList read, rest)

/-- A text of any of the four forms. -/
def readText : Reader String
  | '"' :: '"' :: '"' :: rest => readBlockText '"' rest
  | '\x27' :: '\x27' :: '\x27' :: rest => readBlockText '\x27' rest
  | '"' :: rest => readLineText '"' rest
  | '\x27' :: rest => readLineText '\x27' rest
  | _ => none

end Telemetry.Toml

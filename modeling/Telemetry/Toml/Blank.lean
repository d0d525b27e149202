/-!
Contract: blanks, line ends and comments of the TOML data format.

Owns:
- the characters that may stand unescaped in comments and texts;
- skipping of blanks, of line ends and of comments, and the end of a line.

Does not own: what stands between them.
-/

namespace Telemetry.Toml

/-- A reader of the characters that are left. -/
abbrev Reader (α : Type) := List Char → Option (α × List Char)

def isSpace (character : Char) : Bool := character == ' ' || character == '\t'

def skipSpace (characters : List Char) : List Char := characters.dropWhile isSpace

/-- A tab, or a character that is no control character. -/
def isPlain (character : Char) : Bool :=
  character == '\t' || (decide (0x20 ≤ character.toNat) && character.toNat != 0x7F)

/-- What follows a line end: a line feed, which a carriage return may precede. -/
def afterNewline? : List Char → Option (List Char)
  | '\n' :: rest => some rest
  | '\x0d' :: '\n' :: rest => some rest
  | _ => none

/-- Skips a comment if there is one. -/
def skipComment : List Char → List Char
  | '#' :: rest => rest.dropWhile isPlain
  | characters => characters

/-- What follows the end of a line, which may hold blanks and a comment. The last
line may end with the text. -/
def afterLine? (characters : List Char) : Option (List Char) :=
  match skipComment (skipSpace characters) with
  | [] => some []
  | rest => afterNewline? rest

def skipBlankLines : List Char → List Char
  | [] => []
  | '\x0d' :: '\n' :: rest => skipBlankLines rest
  | character :: rest =>
    if isSpace character || character = '\n' then
      skipBlankLines rest
    else
      character :: rest

/-- Skips blanks, line ends and comments, at first within a comment or not. -/
def skipLines : (inComment : Bool) → List Char → List Char
  | _, [] => []
  | _, '\x0d' :: '\n' :: rest => skipLines false rest
  | inComment, character :: rest =>
    if character = '\n' then
      skipLines false rest
    else if inComment && isPlain character then
      skipLines true rest
    else if isSpace character then
      skipLines false rest
    else if character = '#' then
      skipLines true rest
    else
      character :: rest

end Telemetry.Toml

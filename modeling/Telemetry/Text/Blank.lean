/-!
Contract: the characters that count as blank at the ends of a text.

Owns:
- the Unicode property `White_Space`, as a test on characters;
- trimming of blanks, and of one given character at the end of a text.

Does not own: the blanks between the tokens of a data format, which each
format lists for itself.
-/

namespace Telemetry.Text

/-- The Unicode property `White_Space`. -/
def isBlank (character : Char) : Bool :=
  let code := character.toNat
  (9 ≤ code && code ≤ 13) || code == 0x20 || code == 0x85 || code == 0xA0 ||
    code == 0x1680 || (0x2000 ≤ code && code ≤ 0x200A) || code == 0x2028 ||
    code == 0x2029 || code == 0x202F || code == 0x205F || code == 0x3000

/-- Drops the characters that pass `test` from the end. -/
def dropEndWhile (test : Char → Bool) (characters : List Char) : List Char :=
  (characters.reverse.dropWhile test).reverse

/-- The characters without blanks at either end. -/
def trimList (characters : List Char) : List Char :=
  dropEndWhile isBlank (characters.dropWhile isBlank)

/-- The text without blanks at either end. -/
def trim (text : String) : String :=
  String.ofList (trimList text.toList)

/-- The text without `character` at its end. -/
def trimEnd (character : Char) (text : String) : String :=
  String.ofList (dropEndWhile (· == character) text.toList)

/-- The text holds a character that is not blank. -/
def hasContent (text : String) : Bool :=
  text.toList.any fun character => !isBlank character

end Telemetry.Text

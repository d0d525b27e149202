/-!
Contract: one text within another.

Owns: whether a text occurs in another one.

Does not own: where it occurs.
-/

namespace Telemetry.Text

/-- The characters `part` stand one after the other somewhere in others. -/
def occursIn (part : List Char) : List Char → Bool
  | [] => part.isEmpty
  | character :: rest => part.isPrefixOf (character :: rest) || occursIn part rest

/-- The text `part` occurs in `whole`. -/
def occurs (part whole : String) : Bool := occursIn part.toList whole.toList

end Telemetry.Text

import Telemetry.Entries

/-!
Contract: values of the TOML data format as the library holds them.

Owns:
- the value type, with the tables that headers and keys leave behind;
- how a table came to be, which decides what may still be added to it.

Does not own: text, and the adding itself.
-/

namespace Telemetry

/-- How a table came to be: between braces, under a header of its own, as a step
of a header, or as a step of a dotted key. -/
inductive TableOrigin where
  | closed
  | header
  | implied
  | dotted
deriving DecidableEq, Repr

/-- A dotted key may go on through a table. The table that it ends in must come
from a dotted key as well. -/
def TableOrigin.isOpen (origin : TableOrigin) (endsHere : Bool) : Bool :=
  match origin with
  | .closed | .header => false
  | .implied => !endsHere
  | .dotted => true

/-- A value. Dates and times are kept as they were written. An array of tables
that headers added to is kept apart from an array in brackets, with its last
table at hand: it is the one that further headers and keys reach. -/
inductive Toml where
  | text (value : String)
  | integer (value : Int)
  | float (value : Float)
  | boolean (value : Bool)
  | moment (written : String)
  | array (items : List Toml)
  | table (origin : TableOrigin) (entries : List (String × Toml))
  | tables (earlier : List (List (String × Toml))) (last : List (String × Toml))
deriving Repr, Inhabited

namespace Toml

abbrev Table := Entries String Toml

def asTable? : Toml → Option Table
  | .table _ entries => some entries
  | _ => none

def asArray? : Toml → Option (List Toml)
  | .array items => some items
  | .tables earlier last => some ((earlier ++ [last]).map (Toml.table .header))
  | _ => none

end Toml

end Telemetry

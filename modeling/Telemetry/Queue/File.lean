import Telemetry.Decimal.Digits
import Telemetry.Json.Members
import Telemetry.Queue.Table

/-!
Contract: the text of a file that holds a queue.

Owns: one line for the number that was used last and one line for each row, in
both directions.

Does not own: reading and writing the file.
-/

namespace Telemetry

namespace TableRow

/-- The line of a row: its number, its instant and its text. -/
def line (row : TableRow) : String :=
  (Json.array [.integer row.id, .integer row.insertedAt, .string row.text]).text

def ofLine? (line : String) : Option TableRow :=
  match Json.parse? line with
  | some (.array [.integer id, .integer insertedAt, .string text]) => some ⟨id, text, insertedAt⟩
  | _ => none

end TableRow

namespace TableQueue

def fileText (queue : TableQueue) : String :=
  "\n".intercalate (Decimal.integerText queue.lastId :: queue.rows.map TableRow.line) ++ "\n"

/-- The queue of a text. A text without lines is an empty queue; one whose rows are
not numbered in order is none. -/
def ofFileText? (text : String) : Option TableQueue :=
  match (text.splitOn "\n").filter (· ≠ "") with
  | [] => some .empty
  | first :: lines => do
    let lastId ← Decimal.readInt? first
    let rows ← lines.mapM TableRow.ofLine?
    if numbered : Numbered (rows.map TableRow.id) lastId then
      some ⟨some rows.toArray, lastId, by simpa using numbered⟩
    else
      none

end TableQueue

end Telemetry

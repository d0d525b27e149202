import Telemetry.Toml.Moment
import Telemetry.Toml.Number
import Telemetry.Toml.Table
import Telemetry.Toml.Text

/-!
Contract: TOML documents from text.

Owns:
- keys, arrays, tables between braces, headers and lines;
- the limit on nesting, which is also one on the steps of a key.

Does not own: why a text was refused; a text is read or it is not.
-/

namespace Telemetry.Toml

/-- The most levels of nesting, and the most steps of a key. -/
def depthLimit : Nat := 79

def isBare (character : Char) : Bool :=
  ('A' ≤ character && character ≤ 'Z') || ('a' ≤ character && character ≤ 'z') ||
    Decimal.isDigit character || character == '-' || character == '_'

/-- One step of a key: a text on one line, or a bare key. -/
def readStep : Reader String
  | '"' :: rest => readLineText '"' rest
  | '\x27' :: rest => readLineText '\x27' rest
  | characters =>
    let name := characters.takeWhile isBare
    if name.isEmpty then
      none
    else
      some (String.ofList name, characters.dropWhile isBare)

/-- The steps of a key with points between them, at most `bound`, and the blanks
around them. -/
def readSteps : (bound : Nat) → Reader (List String)
  | 0, _ => none
  | bound + 1, characters => do
    let (step, rest) ← readStep (skipSpace characters)
    match skipSpace rest with
    | '.' :: rest =>
      let (others, rest) ← readSteps bound rest
      some (step :: others, rest)
    | rest => some ([step], rest)

def readKey : Reader (List String) := readSteps depthLimit

def readAssignment (readValue : Reader Toml) : Reader Assignment := fun characters => do
  let (steps, rest) ← readKey characters
  let rest ← readMark '=' rest
  let (value, rest) ← readValue (skipSpace rest)
  some (⟨steps, value⟩, rest)

/-- The items of an array after its opening bracket, at most `bound`. A comma may
follow the last one. -/
def readItems (readValue : Reader Toml) : (bound : Nat) → Reader (List Toml)
  | 0, _ => none
  | bound + 1, characters =>
    match skipLines false characters with
    | ']' :: rest => some ([], rest)
    | characters => do
      let (item, rest) ← readValue characters
      match skipLines false rest with
      | ']' :: rest => some ([item], rest)
      | ',' :: rest =>
        let (others, rest) ← readItems readValue bound rest
        some (item :: others, rest)
      | _ => none

/-- The assignments of a table between braces, at most `bound`, from the first one
on. No comma follows the last one. -/
def readMembers (readValue : Reader Toml) : (bound : Nat) → Reader (List Assignment)
  | 0, _ => none
  | bound + 1, characters => do
    let (member, rest) ← readAssignment readValue characters
    match skipSpace rest with
    | '\x7d' :: rest => some ([member], rest)
    | ',' :: rest =>
      let (others, rest) ← readMembers readValue bound rest
      some (member :: others, rest)
    | _ => none

/-- A table after its opening brace. -/
def readClosedTable (readValue : Reader Toml) : Reader Toml := fun characters =>
  match skipSpace characters with
  | '\x7d' :: rest => some (.table .closed [], rest)
  | characters => do
    let (members, rest) ← readMembers readValue (characters.length + 1) characters
    let entries ← ofAssignments members
    some (.table .closed entries, rest)

/-- A value that is nested at most `depth` levels deep. -/
def readValue : (depth : Nat) → Reader Toml
  | depth, characters =>
    match characters with
    | '[' :: rest =>
      match depth with
      | 0 => none
      | depth + 1 => do
        let (items, rest) ← readItems (readValue depth) (rest.length + 1) rest
        some (.array items, rest)
    | '\x7b' :: rest =>
      match depth with
      | 0 => none
      | depth + 1 => readClosedTable (readValue depth) rest
    | characters =>
      match readText characters with
      | some (read, rest) => some (.text read, rest)
      | none =>
        match readMoment characters with
        | some (written, rest) => some (.moment written, rest)
        | none => readPlainValue characters

/-- A header or an assignment. -/
def readStatement : Reader Statement
  | '[' :: '[' :: rest => do
    let (steps, rest) ← readKey rest
    let rest ← readMark ']' rest
    let rest ← readMark ']' rest
    some (.element steps, rest)
  | '[' :: rest => do
    let (steps, rest) ← readKey rest
    let rest ← readMark ']' rest
    some (.header steps, rest)
  | characters => do
    let (assignment, rest) ← readAssignment (readValue depthLimit) characters
    some (.assignment assignment, rest)

/-- The statements of at most `bound` lines. -/
def readStatements : (bound : Nat) → List Char → Option (List Statement)
  | 0, _ => none
  | _ + 1, [] => some []
  | bound + 1, characters =>
    match afterLine? characters with
    | some rest => readStatements bound rest
    | none => do
      let (statement, rest) ← readStatement (skipSpace characters)
      let rest ← afterLine? rest
      let others ← readStatements bound rest
      some (statement :: others)

/-- The characters without a byte order mark at the start. -/
def dropByteOrderMark : List Char → List Char
  | '\ufeff' :: rest => rest
  | characters => characters

def parse? (text : String) : Option Table :=
  let characters := dropByteOrderMark text.toList
  (readStatements (characters.length + 1) characters).bind ofStatements

end Telemetry.Toml

import Telemetry.Base64Url
import Telemetry.Json.Parser
import Telemetry.Json.Printer

/-!
Contract: the flat record that is built for an event and sent.

Owns:
- texts under text keys, in key order, with the order in the type;
- insertion, which leaves out empty values, and insertion of JSON values;
- the text of a payload, its size in bytes, and reading it back.

Does not own: which keys an event gets. Reading a text keeps empty values.
-/

namespace Telemetry

/-- Texts under text keys. -/
structure Payload where
  entries : Entries String String
  ordered : entries.Ordered
deriving Repr

namespace Payload

theorem eq_of_entries
    {left right : Payload}
    (same : left.entries = right.entries) :
    left = right := by
  cases left
  cases right
  simp only at same
  subst same
  rfl

instance : DecidableEq Payload := fun left right =>
  decidable_of_iff (left.entries = right.entries)
    ⟨eq_of_entries, fun same => congrArg Payload.entries same⟩

/-- The payload without entries. -/
def empty : Payload := ⟨[], Entries.ordered_nil⟩

instance : Inhabited Payload := ⟨empty⟩

/-- The value under `key`. -/
def get? (payload : Payload) (key : String) : Option String := payload.entries.get? key

def contains (payload : Payload) (key : String) : Bool := payload.entries.contains key

def size (payload : Payload) : Nat := payload.entries.length

def isEmpty (payload : Payload) : Bool := payload.entries.isEmpty

/-- Puts `value` under `key`, even an empty one. -/
def put (payload : Payload) (key value : String) : Payload :=
  ⟨payload.entries.insert key value, Entries.ordered_insert payload.ordered key value⟩

/-- Puts `value` under `key`; an empty value changes nothing. -/
def insert (payload : Payload) (key value : String) : Payload :=
  if value.isEmpty then payload else payload.put key value

/-- The value that inserting `value` under `key` takes the place of. -/
def replaced? (payload : Payload) (key value : String) : Option String :=
  if value.isEmpty then none else payload.get? key

/-- Inserts the value if there is one. -/
def insertOption (payload : Payload) (key : String) : Option String → Payload
  | some value => payload.insert key value
  | none => payload

/-- Inserts the text of a JSON value, encoded under one key or plain under the
other. -/
def insertJson
    (payload : Payload)
    (value : Json)
    (encode : Bool)
    (encodedKey plainKey : String) :
    Payload :=
  if encode then
    payload.insert encodedKey (Base64Url.encodeText value.text)
  else
    payload.insert plainKey value.text

/-- Inserts pairs one after the other. -/
def ofPairs (pairs : List (String × String)) : Payload :=
  pairs.foldl (fun payload pair => payload.insert pair.1 pair.2) empty

/-- The JSON object of the entries. -/
def toJson (payload : Payload) : Json :=
  .object (payload.entries.map fun entry => (entry.1, .string entry.2))

/-- The text of the JSON object. -/
def text (payload : Payload) : String := payload.toJson.text

/-- The length of the text in bytes of UTF-8. -/
def byteSize (payload : Payload) : Nat := payload.text.utf8ByteSize

def readValue : Json.Reader String
  | '"' :: rest => Json.readText rest
  | _ => none

/-- An object whose values are texts. -/
def readPairs : Json.Reader (List (String × String))
  | '\x7b' :: rest => Json.readEnclosed (Json.readMember readValue) '\x7d' rest
  | _ => none

/-- The payload of a text: an object whose values are texts, the last of equal
keys winning. -/
def parse? (text : String) : Option Payload :=
  (Json.readAll? readPairs text).map fun pairs =>
    ⟨Entries.ofPairs pairs, Entries.ordered_ofPairs pairs⟩

theorem get?_insert
    (payload : Payload)
    (key wanted value : String) :
    (payload.insert key value).get? wanted =
      if key = wanted ∧ value.isEmpty = false then some value else payload.get? wanted := by
  by_cases blank : value.isEmpty = true
  · simp [insert, blank]
  · simp [insert, put, get?, blank, Entries.get?_insert]

end Payload

end Telemetry

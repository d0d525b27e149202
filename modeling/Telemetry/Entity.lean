import Telemetry.Json.Printer

/-!
Contract: free-form data under a schema.

Owns: the pair of schema and data, its JSON form and its two texts.

Does not own: what a schema says about its data.
-/

namespace Telemetry

/-- A schema and the data it describes: an entity attached to an event, or the
body of a self-describing event. -/
structure Entity where
  schema : String
  data : Fields
deriving DecidableEq, Repr

namespace Entity

/-- An entity whose data is a JSON value; only an object is one. -/
def ofValue? (schema : String) : Json → Option Entity
  | .object members => some ⟨schema, members⟩
  | _ => none

/-- The text member under `key`. -/
def string? (entity : Entity) (key : String) : Option String := entity.data.string? key

/-- The JSON form, with its members in key order. -/
def toJson (entity : Entity) : Json :=
  .object [("data", .object entity.data), ("schema", .string entity.schema)]

def toJsonSchemaFirst (entity : Entity) : Json :=
  .object [("schema", .string entity.schema), ("data", .object entity.data)]

/-- The text of the JSON form. -/
def text (entity : Entity) : String := entity.toJson.text

def textSchemaFirst (entity : Entity) : String := entity.toJsonSchemaFirst.text

theorem toJson_eq_ofPairs (entity : Entity) :
    entity.toJson =
      Json.ofPairs [("schema", .string entity.schema), ("data", .object entity.data)] := by
  have later : ("data" < "schema") := by decide
  simp [toJson, Json.ofPairs, Entries.ofPairs, Entries.insert, later]

end Entity

end Telemetry

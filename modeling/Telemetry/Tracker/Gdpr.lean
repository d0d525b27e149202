import Telemetry.Entity
import Telemetry.Schemas

/-!
Contract: the legal basis on which events are processed.

Owns: the bases, the document that explains one, and the entity.

Does not own: when the entity is attached.
-/

namespace Telemetry

inductive ProcessingBasis where
  | consent
  | contract
  | legalObligation
  | vitalInterests
  | publicTask
  | legitimateInterests
deriving DecidableEq, Repr

namespace ProcessingBasis

def text : ProcessingBasis → String
  | .consent => "consent"
  | .contract => "contract"
  | .legalObligation => "legal_obligation"
  | .vitalInterests => "vital_interests"
  | .publicTask => "public_task"
  | .legitimateInterests => "legitimate_interests"

def all : List ProcessingBasis :=
  [.consent, .contract, .legalObligation, .vitalInterests, .publicTask, .legitimateInterests]

def ofText? (text : String) : Option ProcessingBasis :=
  all.find? fun basis => basis.text == text

end ProcessingBasis

/-- A basis with the document that explains it. -/
structure GdprContext where
  basis : ProcessingBasis
  documentId : Option String := none
  documentVersion : Option String := none
  documentDescription : Option String := none
deriving DecidableEq, Repr

namespace GdprContext

def entity (context : GdprContext) : Entity where
  schema := Schemas.gdpr
  data :=
    let optional (key : String) (value : Option String) : List (String × Json) :=
      (value.map fun text => (key, Json.string text)).toList
    Entries.ofPairs
      ([("basisForProcessing", .string context.basis.text)] ++
        optional "documentId" context.documentId ++
        optional "documentVersion" context.documentVersion ++
        optional "documentDescription" context.documentDescription)

/-- An entity tells the basis and what is known of its document, in texts, and nothing else. -/
structure IsToldBy (context : GdprContext) (entity : Entity) : Prop where
  schema : entity.schema = Schemas.gdpr
  data : ∀ key value, entity.data.get? key = some value ↔
    ∃ text, value = .string text ∧
      (key = "basisForProcessing" ∧ context.basis.text = text ∨
        key = "documentId" ∧ context.documentId = some text ∨
        key = "documentVersion" ∧ context.documentVersion = some text ∨
        key = "documentDescription" ∧ context.documentDescription = some text)

theorem isToldBy_entity (context : GdprContext) : context.IsToldBy context.entity := by
  obtain ⟨basis, id, version, description⟩ := context
  constructor
  case schema => rfl
  case data =>
    intro key value
    rw [entity, Entries.get?_ofPairs_eq_some_iff]
    · simp only [List.mem_append, List.mem_singleton, Option.mem_toList,
        Option.map_eq_some_iff, Prod.mk.injEq]
      grind
    · cases id <;> cases version <;> cases description <;> simp

end GdprContext

end Telemetry

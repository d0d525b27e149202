import Mathlib.Data.List.Forall2
import Telemetry.Tracker

/-!
Contract: which messages stand for an event, and why the others are refused.

Owns:
- the form of a message, apart from the order in which it is checked;
- the first part of a message that is not of that form, as the cause of its refusal;
- that a tracker tracks the event that a message stands for, and that a refused message
  leaves the tracker as it is.

Does not own: what tracking an event does.
-/

namespace Telemetry

namespace Message

/-! ### The form of a message -/

/-- The schema is a text with a character that is not blank. -/
structure HasSchema (members : Fields) (schema : String) : Prop where
  held : members.get? "schema" = some (.string schema)
  content : ∃ character ∈ schema.toList, Text.isBlank character = false

def HasData (members data : Fields) : Prop := members.get? "data" = some (.object data)

/-- An item of the entities: an object with such a schema and with an object as data. -/
inductive IsEntity : Json → Entity → Prop where
  | object {members : Fields} {entity : Entity} :
      HasSchema members entity.schema → HasData members entity.data →
      IsEntity (.object members) entity

/-- Entities may be absent. -/
inductive AreEntities : Option Json → List Entity → Prop where
  | absent : AreEntities none []
  | listed {items : List Json} {entities : List Entity} :
      List.Forall₂ IsEntity items entities → AreEntities (some (.array items)) entities

/-- An instant may be absent or null; otherwise it is a whole number of 64 bits with a sign. -/
inductive IsInstant : Option Json → Option Int → Prop where
  | absent : IsInstant none none
  | null : IsInstant (some .null) none
  | given {instant : Int} :
      Json.leastSigned ≤ instant → instant ≤ Json.greatestSigned →
      IsInstant (some (.integer instant)) (some instant)

/-- A message, and the event that it stands for. -/
inductive Describes : Json → Event → Prop where
  | object {members data : Fields} {schema : String} {entities : List Entity}
      {instant : Option Int} :
      HasSchema members schema → HasData members data →
      AreEntities (members.get? "entities") entities →
      IsInstant (members.get? "true_timestamp") instant →
      Describes (.object members) {
        id := none
        kind := .external ⟨schema, data⟩
        trueTimestamp := instant
        entities := entities }

/-! ### The first fault -/

/-- Where entities are not of the form: at their first malformed item, or at no item if they
are no list. -/
inductive FaultyAt : Option Json → Nat → Prop where
  | noList {value : Json} : (∀ items, value ≠ .array items) → FaultyAt (some value) 0
  | item {before after : List Json} {item : Json} :
      (∀ earlier ∈ before, ∃ entity, IsEntity earlier entity) →
      (∀ entity, ¬ IsEntity item entity) →
      FaultyAt (some (.array (before ++ item :: after))) before.length

/-- The first part of a message that is not of the form; the parts before it are. -/
inductive FirstFault : Json → MessageError → Prop where
  | noObject {message : Json} :
      (∀ members, message ≠ .object members) → FirstFault message .notAnObject
  | noSchema {members : Fields} :
      (∀ schema, ¬ HasSchema members schema) → FirstFault (.object members) .missingSchema
  | noData {members : Fields} {schema : String} :
      HasSchema members schema → (∀ data, ¬ HasData members data) →
      FirstFault (.object members) .invalidData
  | badEntities {members data : Fields} {schema : String} {index : Nat} :
      HasSchema members schema → HasData members data →
      FaultyAt (members.get? "entities") index →
      FirstFault (.object members) (.invalidEntity index)
  | badInstant {members data : Fields} {schema : String} {entities : List Entity} :
      HasSchema members schema → HasData members data →
      AreEntities (members.get? "entities") entities →
      (∀ instant, ¬ IsInstant (members.get? "true_timestamp") instant) →
      FirstFault (.object members) .invalidTimestamp

end Message

namespace Event

open Message

/-! ### The parts of a message -/

/-- A reader that finds exactly what is there finds nothing exactly if nothing is there. -/
theorem eq_none_iff_of_eq_some_iff {α : Type} {found : Option α} {isThere : α → Prop}
    (finds : ∀ {value}, found = some value ↔ isThere value) :
    found = none ↔ ∀ value, ¬ isThere value := by
  rw [Option.eq_none_iff_forall_ne_some]
  exact forall_congr' fun _ => not_congr finds

variable {members : Fields} {cause : MessageError}

theorem messageSchema?_eq_some_iff {schema : String} :
    messageSchema? (.object members) = some schema ↔ HasSchema members schema := by
  have held : ((Json.object members).field? "schema").bind Json.asString? = some schema ↔
      members.get? "schema" = some (.string schema) := Fields.string?_eq_some_iff
  rw [messageSchema?, Option.filter_eq_some_iff, held, Text.hasContent, List.any_eq_true]
  simp only [Bool.not_eq_true']
  exact ⟨fun both => ⟨both.1, both.2⟩, fun schema => ⟨schema.held, schema.content⟩⟩

theorem messageData?_eq_some_iff {data : Fields} :
    ((Json.object members).field? "data").bind Json.asObject? = some data ↔
      HasData members data := by
  rw [HasData, Json.field?, Option.bind_eq_some_iff]
  constructor
  · rintro ⟨value, found, isObject⟩
    cases value <;> simp_all [Json.asObject?]
  · exact fun found => ⟨_, found, rfl⟩

theorem messageEntity?_eq_some_iff {item : Json} {entity : Entity} :
    messageEntity? item = some entity ↔ IsEntity item entity := by
  constructor
  · intro read
    simp only [messageEntity?, Option.bind_eq_bind, Option.bind_eq_some_iff] at read
    obtain ⟨schema, hasSchema, data, hasData, isEntity⟩ := read
    cases item with
    | object members =>
        obtain rfl := Option.some.inj isEntity
        exact .object (messageSchema?_eq_some_iff.mp hasSchema)
          (messageData?_eq_some_iff.mp (Option.bind_eq_some_iff.mpr hasData))
    | null | bool _ | integer _ | float _ | string _ | array _ => cases hasSchema
  · rintro ⟨hasSchema, hasData⟩
    rw [messageEntity?, messageSchema?_eq_some_iff.mpr hasSchema]
    simp only [Option.bind_eq_bind, Option.bind_some]
    rw [messageData?_eq_some_iff.mpr hasData]
    rfl

theorem messageEntity?_eq_none_iff {item : Json} :
    messageEntity? item = none ↔ ∀ entity, ¬ IsEntity item entity :=
  eq_none_iff_of_eq_some_iff messageEntity?_eq_some_iff

/-! ### Items -/

theorem messageEntityList_eq_ok_iff {index : Nat} {items : List Json} {entities : List Entity} :
    messageEntityList index items = .ok entities ↔ List.Forall₂ IsEntity items entities := by
  induction items generalizing index entities with
  | nil => simp [messageEntityList, eq_comm]
  | cons item rest inductionHypothesis =>
      rw [messageEntityList]
      cases read : messageEntity? item with
      | none =>
          have malformed := messageEntity?_eq_none_iff.mp read
          simp [List.forall₂_cons_left_iff, malformed]
      | some entity =>
          have isEntity : ∀ other, IsEntity item other ↔ entity = other := by
            intro other
            rw [← messageEntity?_eq_some_iff, read, Option.some.injEq]
          rw [List.forall₂_cons_left_iff]
          simp only [isEntity, ← @inductionHypothesis (index + 1)]
          cases messageEntityList (index + 1) rest with
          | error cause => simp [Except.map]
          | ok others => simp [Except.map, eq_comm]

/-- Items are refused at the first one that is malformed. -/
theorem messageEntityList_eq_error_iff {index : Nat} {items : List Json} :
    messageEntityList index items = .error cause ↔
      ∃ before item after, items = before ++ item :: after ∧
        (∀ earlier ∈ before, ∃ entity, IsEntity earlier entity) ∧
        (∀ entity, ¬ IsEntity item entity) ∧ cause = .invalidEntity (index + before.length) := by
  induction items generalizing index with
  | nil => simp [messageEntityList]
  | cons item rest inductionHypothesis =>
      rw [messageEntityList]
      cases read : messageEntity? item with
      | none =>
          have malformed := messageEntity?_eq_none_iff.mp read
          constructor
          · rintro ⟨⟩
            exact ⟨[], item, rest, rfl, nofun, malformed, rfl⟩
          · rintro ⟨before, other, after, split, wellFormed, _, rfl⟩
            cases before with
            | nil => rfl
            | cons first before =>
                obtain ⟨rfl, _⟩ := List.cons.inj split
                obtain ⟨entity, isEntity⟩ := wellFormed item (by simp)
                exact absurd isEntity (malformed entity)
      | some entity =>
          have isEntity := messageEntity?_eq_some_iff.mp read
          -- the rest counts on from the next index, so its refusal is that of the whole list
          have refused : ((messageEntityList (index + 1) rest).map (entity :: ·) = .error cause) ↔
              messageEntityList (index + 1) rest = .error cause := by
            cases messageEntityList (index + 1) rest <;> simp [Except.map]
          simp only [refused, inductionHypothesis]
          constructor
          · rintro ⟨before, other, after, rfl, wellFormed, malformed, rfl⟩
            refine ⟨item :: before, other, after, rfl, ?_, malformed, ?_⟩
            · exact List.forall_mem_cons.mpr ⟨⟨entity, isEntity⟩, wellFormed⟩
            · rw [List.length_cons, Nat.add_right_comm, Nat.add_assoc]
          · rintro ⟨before, other, after, split, wellFormed, malformed, rfl⟩
            cases before with
            | nil =>
                obtain ⟨rfl, _⟩ := List.cons.inj split
                exact absurd isEntity (malformed entity)
            | cons first before =>
                obtain ⟨rfl, rfl⟩ := List.cons.inj split
                refine ⟨before, other, after, rfl, ?_, malformed, ?_⟩
                · exact (List.forall_mem_cons.mp wellFormed).2
                · rw [List.length_cons, Nat.add_right_comm, Nat.add_assoc]

theorem messageEntities_eq_ok_iff {entities : List Entity} :
    messageEntities (.object members) = .ok entities ↔
      AreEntities (members.get? "entities") entities := by
  rw [messageEntities, Json.field?]
  split
  · next absent =>
    rw [absent]
    constructor
    · rintro ⟨⟩
      exact .absent
    · rintro ⟨⟩
      rfl
  · next items listed =>
    rw [listed, messageEntityList_eq_ok_iff]
    constructor
    · exact .listed
    · intro areEntities
      cases areEntities with
      | listed each => exact each
  · next value noList found =>
    rw [found]
    constructor
    · rintro ⟨⟩
    · rintro ⟨⟩
      exact absurd rfl (noList _)

theorem messageEntities_eq_error_iff :
    messageEntities (.object members) = .error cause ↔
      ∃ index, cause = .invalidEntity index ∧ FaultyAt (members.get? "entities") index := by
  rw [messageEntities, Json.field?]
  split
  · next absent =>
    rw [absent]
    constructor
    · rintro ⟨⟩
    · rintro ⟨_, _, ⟨⟩⟩
  · next items listed =>
    rw [listed, messageEntityList_eq_error_iff]
    constructor
    · rintro ⟨before, item, after, rfl, wellFormed, malformed, rfl⟩
      exact ⟨before.length, by rw [Nat.zero_add], .item wellFormed malformed⟩
    · rintro ⟨index, rfl, faulty⟩
      cases faulty with
      | noList noList => exact absurd rfl (noList items)
      | item wellFormed malformed =>
          exact ⟨_, _, _, rfl, wellFormed, malformed, by rw [Nat.zero_add]⟩
  · next value noList found =>
    rw [found]
    constructor
    · rintro ⟨⟩
      exact ⟨0, rfl, .noList noList⟩
    · rintro ⟨index, rfl, faulty⟩
      cases faulty with
      | noList _ => rfl
      | item _ _ => exact absurd rfl (noList _)

/-! ### The instant -/

theorem asSigned?_eq_some_iff {value : Json} {instant : Int} :
    value.asSigned? = some instant ↔
      value = .integer instant ∧ Json.leastSigned ≤ instant ∧ instant ≤ Json.greatestSigned := by
  cases value with
  | integer number =>
      rw [Json.asSigned?, Option.ite_none_right_eq_some, Option.some.injEq, Json.integer.injEq]
      constructor
      · rintro ⟨inRange, rfl⟩
        exact ⟨rfl, inRange⟩
      · rintro ⟨rfl, inRange⟩
        exact ⟨inRange, rfl⟩
  | null | bool _ | float _ | string _ | array _ | object _ => simp [Json.asSigned?]

theorem messageTimestamp_eq_ok_iff {instant : Option Int} :
    messageTimestamp (.object members) = .ok instant ↔
      IsInstant (members.get? "true_timestamp") instant := by
  rw [messageTimestamp, Json.field?]
  split
  · next absent =>
    rw [absent]
    constructor
    · rintro ⟨⟩
      exact .absent
    · rintro ⟨⟩
      rfl
  · next isNull =>
    rw [isNull]
    constructor
    · rintro ⟨⟩
      exact .null
    · rintro ⟨⟩
      rfl
  · next value notNull found =>
    rw [found]
    cases read : value.asSigned? with
    | none =>
        simp only [reduceCtorEq, false_iff]
        intro isInstant
        cases isInstant with
        | null => exact notNull rfl
        | given least greatest =>
            rw [asSigned?_eq_some_iff.mpr ⟨rfl, least, greatest⟩] at read
            cases read
    | some number =>
        obtain ⟨rfl, least, greatest⟩ := asSigned?_eq_some_iff.mp read
        constructor
        · rintro ⟨⟩
          exact .given least greatest
        · rintro ⟨⟩
          rfl

theorem messageTimestamp_eq_error_iff :
    messageTimestamp (.object members) = .error cause ↔
      cause = .invalidTimestamp ∧
        ∀ instant, ¬ IsInstant (members.get? "true_timestamp") instant := by
  have refused : ∀ {other}, messageTimestamp (.object members) = .error other →
      other = .invalidTimestamp := by
    intro other failed
    unfold messageTimestamp at failed
    split at failed
    · cases failed
    · cases failed
    · split at failed <;> cases failed
      rfl
  simp only [← messageTimestamp_eq_ok_iff]
  constructor
  · intro failed
    exact ⟨refused failed, fun instant => by simp [failed]⟩
  · rintro ⟨rfl, notRead⟩
    cases read : messageTimestamp (.object members) with
    | ok instant => exact absurd read (notRead instant)
    | error other => rw [refused read]

/-! ### Whole messages -/

theorem ofMessage_eq_ok_iff {message : Json} {event : Event} :
    ofMessage message = .ok event ↔ Describes message event := by
  constructor
  · intro read
    unfold ofMessage at read
    split at read
    · next members =>
      split at read
      · cases read
      · next schema isSchema =>
        split at read
        · cases read
        · next data isData =>
          split at read
          · cases read
          · next entities areEntities =>
            split at read
            · cases read
            · next instant isInstant =>
              obtain rfl := Except.ok.inj read
              exact .object (messageSchema?_eq_some_iff.mp isSchema)
                (messageData?_eq_some_iff.mp isData)
                (messageEntities_eq_ok_iff.mp areEntities)
                (messageTimestamp_eq_ok_iff.mp isInstant)
    · cases read
  · rintro ⟨isSchema, isData, areEntities, isInstant⟩
    simp only [ofMessage, messageSchema?_eq_some_iff.mpr isSchema,
      messageData?_eq_some_iff.mpr isData, messageEntities_eq_ok_iff.mpr areEntities,
      messageTimestamp_eq_ok_iff.mpr isInstant]

theorem ofMessage_eq_error_iff {message : Json} :
    ofMessage message = .error cause ↔ FirstFault message cause := by
  have noSchema : ∀ {members}, messageSchema? (.object members) = none ↔
      ∀ schema, ¬ HasSchema members schema :=
    eq_none_iff_of_eq_some_iff messageSchema?_eq_some_iff
  have noData : ∀ {members}, ((Json.object members).field? "data").bind Json.asObject? = none ↔
      ∀ data, ¬ HasData members data :=
    eq_none_iff_of_eq_some_iff messageData?_eq_some_iff
  constructor
  · intro failed
    unfold ofMessage at failed
    split at failed
    · next members =>
      split at failed
      · next absent =>
        cases failed
        exact .noSchema (noSchema.mp absent)
      · next schema read =>
        have isSchema := messageSchema?_eq_some_iff.mp read
        split at failed
        · next absent =>
          cases failed
          exact .noData isSchema (noData.mp absent)
        · next data read =>
          have isData := messageData?_eq_some_iff.mp read
          split at failed
          · next refused =>
            cases failed
            obtain ⟨index, rfl, faulty⟩ := messageEntities_eq_error_iff.mp refused
            exact .badEntities isSchema isData faulty
          · next entities read =>
            have areEntities := messageEntities_eq_ok_iff.mp read
            split at failed
            · next refused =>
              cases failed
              obtain ⟨rfl, noInstant⟩ := messageTimestamp_eq_error_iff.mp refused
              exact .badInstant isSchema isData areEntities noInstant
            · cases failed
    · next noObject =>
      cases failed
      exact .noObject noObject
  · intro fault
    cases fault with
    | noObject noObject =>
        cases message with
        | object members => exact absurd rfl (noObject members)
        | null | bool _ | integer _ | float _ | string _ | array _ => rfl
    | noSchema absent => simp only [ofMessage, noSchema.mpr absent]
    | noData isSchema absent =>
        simp only [ofMessage, messageSchema?_eq_some_iff.mpr isSchema, noData.mpr absent]
    | badEntities isSchema isData faulty =>
        simp only [ofMessage, messageSchema?_eq_some_iff.mpr isSchema,
          messageData?_eq_some_iff.mpr isData,
          messageEntities_eq_error_iff.mpr ⟨_, rfl, faulty⟩]
    | badInstant isSchema isData areEntities noInstant =>
        simp only [ofMessage, messageSchema?_eq_some_iff.mpr isSchema,
          messageData?_eq_some_iff.mpr isData, messageEntities_eq_ok_iff.mpr areEntities,
          messageTimestamp_eq_error_iff.mpr ⟨rfl, noInstant⟩]

end Event

namespace Tracker

open Message

/-- A message is read exactly if it is of the form, as the event that it stands for, and it is
refused for its first fault. A tracker tracks the event of a message; a refused message leaves
the whole tracker as it is, with its rows, its machines and their states, its session and the
signals that were given. -/
theorem messages_are_read_or_refused (message : Json) :
    (∀ event, Event.ofMessage message = .ok event ↔ Describes message event) ∧
      (∀ cause, Event.ofMessage message = .error cause ↔ FirstFault message cause) ∧
      ∀ {η : Type} (tracker : Tracker η) (now : Int),
        (∀ event, Describes message event →
          tracker.trackMessage message now = tracker.track event now) ∧
        ∀ cause, FirstFault message cause →
          tracker.trackMessage message now = (none, tracker) := by
  refine ⟨fun _ => Event.ofMessage_eq_ok_iff, fun _ => Event.ofMessage_eq_error_iff,
    fun tracker now => ⟨fun event describes => ?_, fun cause fault => ?_⟩⟩
  · rw [trackMessage, Event.ofMessage_eq_ok_iff.mpr describes]
  · rw [trackMessage, Event.ofMessage_eq_error_iff.mpr fault]

/-- The second of three entities has a blank schema, and the instant is no whole number: the
entity is the first fault. Without the two faults the message is read, with an instant at the
end of its range and null for it. -/
theorem message_with_blank_entity_is_refused :
    let entity : Json := .object [("data", .object []), ("schema", .string "iglu:a")]
    let blank : Json := .object [("data", .object []), ("schema", .string " \t")]
    let faulty : Json := .object [("data", .object []),
      ("entities", .array [entity, blank, entity]), ("schema", .string "iglu:m"),
      ("true_timestamp", .float 1.5)]
    let sound : Json := .object [("data", .object []), ("entities", .array [entity]),
      ("schema", .string " iglu:m"), ("true_timestamp", .integer 0x7FFFFFFFFFFFFFFF)]
    let event : Event := {
      kind := .external ⟨" iglu:m", []⟩
      trueTimestamp := some 0x7FFFFFFFFFFFFFFF
      entities := [⟨"iglu:a", []⟩] }
    let tracker : Tracker Unit := prepare {} {} {} {
      queue := { backend := .memory .empty }
      resources := ⟨{ backend := .memory .empty }, .standard, ⟨fun n => ⟨n⟩, 0⟩⟩
      host := () }
    FirstFault faulty (.invalidEntity 1) ∧
      Event.ofMessage faulty = .error (.invalidEntity 1) ∧
      tracker.trackMessage faulty 7 = (none, tracker) ∧
      Describes sound event ∧
      tracker.trackMessage sound 7 = tracker.track event 7 := by
  intro entity blank faulty sound event tracker
  have isEntity : IsEntity entity ⟨"iglu:a", []⟩ :=
    .object ⟨rfl, 'i', by decide, by decide⟩ rfl
  have isBlank : ∀ other, ¬ IsEntity blank other :=
    Event.messageEntity?_eq_none_iff.mp (by decide)
  have faultyAt : FaultyAt (some (.array ([entity] ++ blank :: [entity]))) [entity].length :=
    .item (List.forall_mem_singleton.mpr ⟨_, isEntity⟩) isBlank
  have fault : FirstFault faulty (.invalidEntity 1) :=
    .badEntities ⟨rfl, 'i', by decide, by decide⟩ rfl faultyAt
  have describes : Describes sound event :=
    .object ⟨rfl, 'i', by decide, by decide⟩ rfl (.listed (.cons isEntity .nil))
      (.given (by decide) (by decide))
  have ofFaulty := messages_are_read_or_refused faulty
  have ofSound := messages_are_read_or_refused sound
  exact ⟨fault, (ofFaulty.2.1 _).mpr fault, (ofFaulty.2.2 tracker 7).2 _ fault, describes,
    (ofSound.2.2 tracker 7).1 _ describes⟩

end Tracker

end Telemetry

import Telemetry.Proofs.Json.Values
import Telemetry.Proofs.State.Answers
import Telemetry.Proofs.Text.Base64
import Telemetry.Proofs.Tracker.Outcome

/-!
Contract: the row of an event holds its fields and its entities.

Owns:
- the JSON value that a collector decodes from a payload, in both encodings;
- the entries of a payload that hold the context entities and the body of an event;
- that the row of a tracked event holds its own fields and entities with those that the
  machines add, whichever encoding is used.

Does not own: when an event is tracked.
-/

namespace Telemetry

/-- Data that is read back is read back with its schema. -/
theorem Json.Legible.withSchema {depth : Nat} {data : Json} (legible : data.Legible depth)
    (schema : String) :
    Json.Legible (depth + 1) (.object [("data", data), ("schema", .string schema)]) := by
  refine .object (Entries.ordered_of_keys ["data", "schema"] rfl (by decide)) ?_
  simp only [List.forall_mem_cons, List.not_mem_nil, false_implies, implies_true, and_true]
  exact ⟨legible, .string schema⟩

/-! ### Decoding -/

namespace Payload

/-- The JSON value that is decoded from one of two entries: from the encoded one, or from the
plain one. -/
def decoded? (payload : Payload) (parse : String → Option Json) (base64 : Bool)
    (encodedKey plainKey : String) : Option Json :=
  if base64 then
    ((payload.get? encodedKey).bind Base64Url.decodeText?).bind parse
  else
    (payload.get? plainKey).bind parse

variable {payload other : Payload} {parse : String → Option Json} {encodedKey plainKey : String}

/-- A value that was inserted is decoded, if parsing undoes printing. -/
theorem decoded?_insertJson (payload : Payload) {value : Json} (base64 : Bool)
    (present : value.text.isEmpty = false) (parses : parse value.text = some value) :
    (payload.insertJson value base64 encodedKey plainKey).decoded? parse base64 encodedKey
      plainKey = some value := by
  cases base64 with
  | true =>
      have encoded : (Base64Url.encodeText value.text).isEmpty = false :=
        Base64Url.encodeText_isEmpty present
      rw [decoded?, if_pos rfl, insertJson, if_pos rfl, get?_insert_self _ encoded,
        Option.bind_some, Base64Url.decodeText?_encodeText, Option.bind_some, parses]
  | false =>
      rw [decoded?, if_neg Bool.false_ne_true, insertJson, if_neg Bool.false_ne_true,
        get?_insert_self _ present, Option.bind_some, parses]

/-- Other entries do not matter. -/
theorem decoded?_congr (base64 : Bool) (encoded : other.get? encodedKey = payload.get? encodedKey)
    (plain : other.get? plainKey = payload.get? plainKey) :
    other.decoded? parse base64 encodedKey plainKey =
      payload.decoded? parse base64 encodedKey plainKey := by
  rw [decoded?, decoded?, encoded, plain]

end Payload

namespace Build

variable {settings : TrackerSettings} {subject : Option Subject} {event : ObservedEvent}
  {fields : Fields} {entities : List Entity} {parse : String → Option Json}

/-- An object has a text. -/
theorem object_text_isEmpty (members : Fields) : (Json.object members).text.isEmpty = false := by
  rw [String.isEmpty_eq_false_iff]
  intro empty
  have noCharacters := congrArg String.toList empty
  simp [Json.text, Json.render, Json.enclosed] at noCharacters

/-! ### Entries for JSON values -/

/-- What is written before the body of an event is under its own keys. -/
theorem get?_start_of_foreign {key : String} (foreign : key ∉ startKeys) :
    (stampEvent event (base settings subject)).get? key = none := by
  rw [start_eq, Payload.get?_insertAll_of_foreign _ fun member =>
    foreign ((startEntries_keys settings subject event).subset member)]
  rfl

theorem get?_writePromoted (shown : Option String × Option String) (payload : Payload)
    {key : String} (notUrl : Keys.pageUrl ≠ key) (notReferrer : Keys.pageReferrer ≠ key) :
    (writePromoted shown payload).get? key = payload.get? key := by
  rw [writePromoted, Payload.get?_insertOption_of_ne _ notReferrer,
    Payload.get?_insertOption_of_ne _ notUrl]

theorem get?_writeContexts (base64 : Bool) (entities : List Entity) (payload : Payload)
    {key : String} (notEncoded : Keys.contextEncoded ≠ key) (notPlain : Keys.context ≠ key) :
    (writeContexts base64 entities payload).get? key = payload.get? key := by
  unfold writeContexts
  split
  · rfl
  · exact payload.get?_insertJson_of_ne _ base64 notEncoded notPlain

/-- The context entities are decoded if there are any. -/
theorem decoded?_contexts (present : entities ≠ [])
    (parses : parse (contextsJson entities).text = some (contextsJson entities)) :
    (payload settings subject event fields entities).decoded? parse settings.base64
      Keys.contextEncoded Keys.context = some (contextsJson entities) := by
  have notEmpty : entities.isEmpty = false := by
    rw [← Bool.not_eq_true, List.isEmpty_iff]
    exact present
  rw [payload, Payload.decoded?_congr settings.base64
    (get?_writePromoted _ _ (by decide) (by decide))
    (get?_writePromoted _ _ (by decide) (by decide)), writeContexts, notEmpty,
    if_neg Bool.false_ne_true]
  exact Payload.decoded?_insertJson _ settings.base64 (object_text_isEmpty _) parses

/-- Without entities an event with a schema has no entry for them. -/
theorem get?_payload_context {schema : String} (hasSchema : event.schema = some schema)
    {key : String} (isContext : key = Keys.contextEncoded ∨ key = Keys.context) :
    (payload settings subject event fields []).get? key = none := by
  have notPromoted : Keys.pageUrl ≠ key ∧ Keys.pageReferrer ≠ key := by
    rcases isContext with rfl | rfl <;> decide
  have notBody : Keys.unstructuredEncoded ≠ key ∧ Keys.unstructured ≠ key := by
    rcases isContext with rfl | rfl <;> decide
  have notStart : key ∉ startKeys := by
    rcases isContext with rfl | rfl <;> decide
  rw [payload, get?_writePromoted _ _ notPromoted.1 notPromoted.2, writeContexts,
    List.isEmpty_nil, if_pos rfl, hasSchema, writeEvent,
    Payload.get?_insertJson_of_ne _ _ _ notBody.1 notBody.2, get?_start_of_foreign notStart]

/-- The body of an event with a schema is decoded. -/
theorem decoded?_body {schema : String} (hasSchema : event.schema = some schema)
    (parses : parse (bodyJson schema fields).text = some (bodyJson schema fields)) :
    (payload settings subject event fields entities).decoded? parse settings.base64
      Keys.unstructuredEncoded Keys.unstructured = some (bodyJson schema fields) := by
  rw [payload, Payload.decoded?_congr settings.base64
    (get?_writePromoted _ _ (by decide) (by decide))
    (get?_writePromoted _ _ (by decide) (by decide)),
    Payload.decoded?_congr settings.base64
    (get?_writeContexts _ _ _ (by decide) (by decide))
    (get?_writeContexts _ _ _ (by decide) (by decide)), hasSchema, writeEvent]
  exact Payload.decoded?_insertJson _ settings.base64 (object_text_isEmpty _) parses

end Build

namespace Tracker

variable {η : Type}

/-! ### What machines add -/

/-- Asking machines leaves the machines, whatever they do to the world. -/
theorem asks_anything (tracker : Tracker η) (event : ObservedEvent) :
    (tracker.manager.snapshot tracker.world event).2.1.machines = tracker.manager.machines ∧
      ∀ fields,
        ((tracker.manager.snapshot tracker.world event).2.1.addPayloadValues
          (tracker.manager.snapshot tracker.world event).2.2 event
          (tracker.manager.snapshot tracker.world event).1 fields).2.1.machines =
            tracker.manager.machines := by
  have knows : tracker.manager.Knows fun _ => True := ⟨fun _ _ => trivial, fun _ => trivial⟩
  have cumulative : Cumulative fun _ _ : World η => True :=
    ⟨fun _ => trivial, fun _ _ => trivial⟩
  have respects : ∀ machine : Machine (World η), True → machine.Respects fun _ _ => True :=
    fun _ _ => ⟨fun _ _ _ => trivial, fun _ _ _ => trivial, fun _ _ _ => trivial⟩
  have noted := knows.snapshot cumulative respects tracker.world event
  refine ⟨noted.machines, fun fields => ?_⟩
  have valued := noted.knows.addPayloadValues cumulative respects
    (tracker.manager.snapshot tracker.world event).2.2 event
    (tracker.manager.snapshot tracker.world event).1 fields
  exact valued.machines.trans noted.machines

theorem concerned_congr {manager other : Manager (World η)}
    (same : other.machines = manager.machines) (selection : Subscriptions → Selector)
    (event : ObservedEvent) :
    other.concerned selection event = manager.concerned selection event := by
  rw [Manager.concerned, Manager.concerned, same]

/-- What the machines answer that are subscribed to offer values for an event, in the order of
registration. Each is asked with the state that the event's snapshot shows of it. -/
def valuesOffered (tracker : Tracker η) (event : ObservedEvent) : List (Option Fields) :=
  let (seen, manager, world) := tracker.manager.snapshot tracker.world event
  Manager.answersInTurn (Manager.askValues event) seen
    (tracker.manager.concerned Subscriptions.payloadValues event) manager world

/-- What the machines answer that are subscribed to give entities to an event. They are asked
after those that offer values. -/
def entitiesGiven (tracker : Tracker η) (event : ObservedEvent) : List (Option (List Entity)) :=
  let (seen, manager, world) := tracker.manager.snapshot tracker.world event
  let (_, manager, world) := manager.addPayloadValues world event seen event.data
  Manager.answersInTurn (Manager.askEntities event) seen
    (tracker.manager.concerned Subscriptions.entities event) manager world

theorem valuesOffered_answers (tracker : Tracker η) (event : ObservedEvent) :
    List.Forall₂ (fun machine answer => ∃ state, machine.payloadValues event state = answer)
      (tracker.manager.concerned Subscriptions.payloadValues event)
      (tracker.valuesOffered event) := by
  let noted := tracker.manager.snapshot tracker.world event
  have answers := Manager.answersInTurn_answers (Manager.askValues event) noted.1
    (tracker.manager.concerned Subscriptions.payloadValues event) noted.2.1 noted.2.2
  refine answers.imp ?_
  rintro machine answer ⟨state, _, same⟩
  exact ⟨state, same⟩

theorem entitiesGiven_answers (tracker : Tracker η) (event : ObservedEvent) :
    List.Forall₂
      (fun machine answer => ∃ state world, (machine.entities event state world).1 = answer)
      (tracker.manager.concerned Subscriptions.entities event)
      (tracker.entitiesGiven event) := by
  let noted := tracker.manager.snapshot tracker.world event
  let valued := noted.2.1.addPayloadValues noted.2.2 event noted.1 event.data
  exact Manager.answersInTurn_answers (Manager.askEntities event) noted.1
    (tracker.manager.concerned Subscriptions.entities event) valued.2.1 valued.2.2

/-- The fields of an enriched event are its own, and under other keys what machines offer
first. -/
theorem enrich_fields (tracker : Tracker η) (event : ObservedEvent) :
    (∀ key, Entries.get? (tracker.enrich event).1.fields key =
      (Entries.get? event.data key).or
        (Entries.get? ((tracker.valuesOffered event).flatMap fun answer => answer.getD [])
          key)) ∧
      (event.data.Ordered → (tracker.enrich event).1.fields.Ordered) := by
  let noted := tracker.manager.snapshot tracker.world event
  constructor
  · intro key
    rw [valuesOffered, ← concerned_congr (tracker.asks_anything event).1]
    exact Manager.get?_addValuesOf event noted.1 _ noted.2.1 noted.2.2 event.data key
  · intro ordered
    exact Manager.ordered_addValuesOf event noted.1 _ noted.2.1 noted.2.2 ordered

/-- The entities of an enriched event are its own, the basis for processing, and those that
machines give. -/
theorem enrich_entities (tracker : Tracker η) (event : ObservedEvent) :
    (tracker.enrich event).1.entities =
      event.entities ++ (tracker.gdpr.map GdprContext.entity).toList ++
        (tracker.entitiesGiven event).flatMap fun answer => answer.getD [] := by
  rw [entitiesGiven, ← concerned_congr ((tracker.asks_anything event).2 event.data),
    ← Manager.entitiesOf_eq]
  rfl

/-! ### Rows -/

/-- The tracker with one of the encodings. -/
def withEncoding (tracker : Tracker η) (base64 : Bool) : Tracker η :=
  { tracker with settings := { tracker.settings with base64 := base64 } }

theorem identify_frame (tracker : Tracker η) (event : Event) :
    (tracker.identify event).2.manager = tracker.manager ∧
      (tracker.identify event).2.gdpr = tracker.gdpr ∧
      (tracker.identify event).2.settings = tracker.settings ∧
      (tracker.identify event).2.outbox = tracker.outbox := by
  unfold identify
  split <;> exact ⟨rfl, rfl, rfl, rfl⟩

theorem enrich_frame (tracker : Tracker η) (event : ObservedEvent) :
    (tracker.enrich event).2.settings = tracker.settings ∧
      (tracker.enrich event).2.outbox = tracker.outbox := ⟨rfl, rfl⟩

theorem accepts_frame (tracker : Tracker η) (enriched : Enriched) :
    (tracker.accepts enriched).2.settings = tracker.settings ∧
      (tracker.accepts enriched).2.outbox = tracker.outbox := ⟨rfl, rfl⟩

/-- Identifying an event and asking machines about it leaves the set-up and the queue. -/
theorem voted_frame (tracker : Tracker η) (event : Event) (now : Int) :
    (tracker.voted event now).settings = tracker.settings ∧
      (tracker.voted event now).outbox = tracker.outbox := by
  obtain ⟨_, _, settings, outbox⟩ := tracker.identify_frame event
  rw [voted, (accepts_frame _ _).1, (accepts_frame _ _).2, enriched, (enrich_frame _ _).1,
    (enrich_frame _ _).2]
  exact ⟨settings, outbox⟩

/-- Machines are asked the same, whatever the encoding is. -/
theorem enriched_withEncoding (tracker : Tracker η) (base64 : Bool) (event : Event) (now : Int) :
    ((tracker.withEncoding base64).enriched event now).1 = (tracker.enriched event now).1 := by
  have identified : ((tracker.withEncoding base64).identify event).2 =
      (tracker.identify event).2.withEncoding base64 := by
    unfold identify
    cases event.id <;> rfl
  rw [enriched, identified]
  rfl

/-- The fields of a tracked event: its own, and under other keys what machines offer first. -/
theorem enriched_fields (tracker : Tracker η) (event : Event) (now : Int) :
    (∀ key, Entries.get? (tracker.enriched event now).1.fields key =
      (Entries.get? event.data key).or
        (Entries.get? (((tracker.identify event).2.valuesOffered
          (tracker.observed event now)).flatMap fun answer => answer.getD []) key)) ∧
      (event.data.Ordered → (tracker.enriched event now).1.fields.Ordered) :=
  (tracker.identify event).2.enrich_fields (tracker.observed event now)

/-- The entities of a tracked event: its own, the basis for processing, and those that machines
give. -/
theorem enriched_entities (tracker : Tracker η) (event : Event) (now : Int) :
    (tracker.enriched event now).1.entities =
      event.entities ++ (tracker.gdpr.map GdprContext.entity).toList ++
        ((tracker.identify event).2.entitiesGiven (tracker.observed event now)).flatMap
          fun answer => answer.getD [] := by
  obtain ⟨_, gdpr, _, _⟩ := tracker.identify_frame event
  have all := (tracker.identify event).2.enrich_entities (tracker.observed event now)
  rw [gdpr] at all
  exact all

/-- A tracked event is one row more, whose payload is the one that was built. -/
theorem track_row {tracker : Tracker η} {event : Event} {now : Int} {id : Uuid}
    (tracked : (tracker.track event now).1 = some id) :
    ∃ (row : StoredRow) (stored : QueuedEvent),
      (tracker.track event now).2.rows = tracker.rows ++ [row] ∧
      row.event? = some stored ∧ stored.payload = tracker.built event now := by
  have outbox := (tracker.voted_frame event now).2
  cases on : tracker.tracking with
  | false =>
      rw [track, on] at tracked
      cases tracked
  | true =>
      rw [track_of_tracking on] at tracked ⊢
      split at tracked
      · next accepted =>
        rw [if_pos accepted]
        have inserting : (tracker.voted event now).outbox.queue.insert
            ((tracker.voted event now).payloadOf (tracker.enriched event now).1) now =
              tracker.outbox.queue.insert (tracker.built event now) now := by
          rw [outbox, built]
        rcases tracker.outbox.queue.insert_cases (tracker.built event now) now with
          ⟨cause, refused⟩ | ⟨backend, extended, _, inserted⟩
        · rw [enqueue_of_error (inserting.trans refused)] at tracked
          cases tracked
        · rw [enqueue_of_ok (inserting.trans inserted)]
          exact ⟨_, _, extended.contents, QueueBackend.event?_keptAs _
            ⟨_, tracker.built event now, now⟩, rfl⟩
      · cases tracked

/-- The payload of an event that is tracked with one of the encodings. -/
theorem built_withEncoding (tracker : Tracker η) (base64 : Bool) (event : Event) (now : Int) :
    ∃ settings subject, settings.base64 = base64 ∧
      (tracker.withEncoding base64).built event now =
        Build.payload settings subject (tracker.observed event now)
          (tracker.enriched event now).1.fields (tracker.enriched event now).1.entities := by
  let used := tracker.withEncoding base64
  refine ⟨(used.voted event now).settings, (used.voted event now).subject, ?_, ?_⟩
  · rw [(used.voted_frame event now).1]
    rfl
  · rw [← tracker.enriched_withEncoding base64]
    rfl

/-- The context entities as a value. -/
theorem contextsJson_eq (entities : List Entity) :
    Build.contextsJson entities =
      .ofPairs [("schema", .string Schemas.contexts),
        ("data", .array (entities.map fun entity =>
          .ofPairs [("schema", .string entity.schema), ("data", .object entity.data)]))] := by
  have later : "data" < "schema" := by decide
  have parts : entities.map Entity.toJson = entities.map fun entity =>
      .ofPairs [("schema", .string entity.schema), ("data", .object entity.data)] :=
    List.map_congr_left fun entity _ => entity.toJson_eq_ofPairs
  rw [Build.contextsJson, parts]
  simp [Json.ofPairs, Entries.ofPairs, Entries.insert, later]

/-- The body of an event as a value. -/
theorem bodyJson_eq (schema : String) (fields : Fields) :
    Build.bodyJson schema fields =
      .ofPairs [("schema", .string Schemas.unstructEvent),
        ("data", .ofPairs [("schema", .string schema), ("data", .object fields)])] := by
  have later : "data" < "schema" := by decide
  simp [Build.bodyJson, Json.ofPairs, Entries.ofPairs, Entries.insert, later]

/-- What machines add to an event does not depend on the encoding: values under keys that its
data does not have, and entities after its own and the one that tells the basis for processing. If
the event is tracked, its row holds the entities under one of two keys, and, if it has a schema,
the fields under one of two others; without entities it then has no entry for them. What is
decoded is the same in both encodings, if parsing undoes printing. -/
theorem row_holds_event (tracker : Tracker η) (event : Event) (now : Int) :
    let observed := tracker.observed event now
    let values := (tracker.identify event).2.valuesOffered observed
    let given := (tracker.identify event).2.entitiesGiven observed
    let fields := (tracker.enriched event now).1.fields
    let entities := event.entities ++ (tracker.gdpr.map GdprContext.entity).toList ++
      given.flatMap fun answer => answer.getD []
    let contexts : Json := .ofPairs [("schema", .string Schemas.contexts),
      ("data", .array (entities.map fun entity =>
        .ofPairs [("schema", .string entity.schema), ("data", .object entity.data)]))]
    List.Forall₂ (fun machine answer => ∃ state, machine.payloadValues observed state = answer)
        (tracker.manager.concerned Subscriptions.payloadValues observed) values ∧
      List.Forall₂
        (fun machine answer => ∃ state world, (machine.entities observed state world).1 = answer)
        (tracker.manager.concerned Subscriptions.entities observed) given ∧
      (event.data.Ordered → fields.Ordered) ∧
      (∀ key, fields.get? key =
        (event.data.get? key).or
          (Entries.get? (values.flatMap fun answer => answer.getD []) key)) ∧
      (∀ context ∈ tracker.gdpr, context.IsToldBy context.entity) ∧
      ∀ (base64 : Bool) (id : Uuid),
        ((tracker.withEncoding base64).track event now).1 = some id →
        ∃ (row : StoredRow) (stored : QueuedEvent),
          ((tracker.withEncoding base64).track event now).2.rows = tracker.rows ++ [row] ∧
          row.event? = some stored ∧
          ∀ parse : String → Option Json,
            (entities ≠ [] → parse contexts.text = some contexts →
              stored.payload.decoded? parse base64 Keys.contextEncoded Keys.context =
                some contexts) ∧
            ∀ schema, event.schema? = some schema →
              let body : Json := .ofPairs [("schema", .string Schemas.unstructEvent),
                ("data", .ofPairs [("schema", .string schema), ("data", .object fields)])]
              (entities = [] → stored.payload.get? Keys.contextEncoded = none ∧
                stored.payload.get? Keys.context = none) ∧
              (parse body.text = some body →
                stored.payload.decoded? parse base64 Keys.unstructuredEncoded
                  Keys.unstructured = some body) := by
  intro observed values given fields entities contexts
  obtain ⟨manager, _, _, _⟩ := tracker.identify_frame event
  obtain ⟨offered, ordered⟩ := tracker.enriched_fields event now
  have isEntities : (tracker.enriched event now).1.entities = entities :=
    tracker.enriched_entities event now
  refine ⟨?_, ?_, ordered, offered, fun context _ => context.isToldBy_entity, ?_⟩
  · rw [← manager]
    exact (tracker.identify event).2.valuesOffered_answers observed
  · rw [← manager]
    exact (tracker.identify event).2.entitiesGiven_answers observed
  intro base64 id tracked
  obtain ⟨row, stored, rows, isStored, payload⟩ := track_row tracked
  obtain ⟨settings, subject, isEncoding, built⟩ := tracker.built_withEncoding base64 event now
  rw [built, isEntities] at payload
  refine ⟨row, stored, rows, isStored, fun parse => ⟨?_, ?_⟩⟩
  · intro present parses
    have isContexts : Build.contextsJson entities = contexts := contextsJson_eq entities
    rw [payload, ← isEncoding, ← isContexts]
    rw [← isContexts] at parses
    exact Build.decoded?_contexts present parses
  · intro schema hasSchema body
    constructor
    · intro nothing
      rw [payload, nothing]
      exact ⟨Build.get?_payload_context hasSchema (.inl rfl),
        Build.get?_payload_context hasSchema (.inr rfl)⟩
    · intro parses
      have isBody : Build.bodyJson schema fields = body := bodyJson_eq schema fields
      rw [payload, ← isEncoding, ← isBody]
      rw [← isBody] at parses
      exact Build.decoded?_body hasSchema parses

/-- A machine offers a value that the event has and one that it has not, and gives an entity: in
both encodings the row holds the event's own value, the new one, and three entities. -/
theorem row_holds_event_of_host_machine :
    let added : Entity := ⟨"iglu:host/added", [("n", .integer 1)]⟩
    let machine : Machine Unit := {
      identifier := "host"
      kind := .hosted "host"
      subscriptions := { entities := .all, payloadValues := .all }
      entities := fun _ _ world => (some [added], world)
      payloadValues := fun _ _ => some [("a", .integer 2), ("b", .integer 3)] }
    let parts : Parts Unit := {
      queue := { backend := .memory .empty }
      resources := ⟨{ backend := .memory .empty }, .standard, ⟨fun n => ⟨n⟩, 0⟩⟩
      host := () }
    let settings : TrackerSettings :=
      { sessionContext := false, lifecycle := false, deepLinks := false, install := false }
    let gdpr : GdprContext := { basis := .contract }
    let tracker := ((prepare settings {} {} parts).addMachine machine).setGdpr (some gdpr)
    let own : Entity := ⟨"iglu:host/own", []⟩
    let event : Event := {
      id := some ⟨9⟩
      kind := .selfDescribing ⟨"iglu:host/event", [("a", .integer 1)]⟩
      entities := [own] }
    let contexts := Build.contextsJson [own, gdpr.entity, added]
    let body := Build.bodyJson "iglu:host/event" [("a", .integer 1), ("b", .integer 3)]
    ∀ base64, ((tracker.withEncoding base64).track event 5).1 = some ⟨9⟩ ∧
      ∃ (row : StoredRow) (stored : QueuedEvent),
        ((tracker.withEncoding base64).track event 5).2.rows = [row] ∧
        row.event? = some stored ∧
        stored.payload.decoded? Json.parse? base64 Keys.contextEncoded Keys.context =
          some contexts ∧
        stored.payload.decoded? Json.parse? base64 Keys.unstructuredEncoded
          Keys.unstructured = some body := by
  intro added machine parts settings gdpr tracker own event contexts body base64
  have tracked : ((tracker.withEncoding base64).track event 5).1 = some ⟨9⟩ := by
    cases base64 <;> decide +kernel
  have isFields : (tracker.enriched event 5).1.fields = [("a", .integer 1), ("b", .integer 3)] := by
    decide +kernel
  have isGiven : (tracker.identify event).2.entitiesGiven (tracker.observed event 5) =
      [some [added]] := by
    decide +kernel
  have readContexts : Json.parse? contexts.text = some contexts := by
    refine Json.parse?_text (Json.Legible.withSchema (.array ?_) _)
    simp only [List.map_cons, List.map_nil, List.forall_mem_cons, List.not_mem_nil,
      false_implies, implies_true, and_true]
    refine ⟨.withSchema (.object (by decide) ?_) _, .withSchema (.object (by decide) ?_) _,
      .withSchema (.object (by decide) ?_) _⟩
    · exact fun _ member => nomatch member
    · have data : gdpr.entity.data = [("basisForProcessing", .string "contract")] := rfl
      rw [data, List.forall_mem_singleton]
      exact .string "contract"
    · rw [List.forall_mem_singleton]
      exact .integer ⟨by decide, by decide⟩
  have readBody : Json.parse? body.text = some body := by
    refine Json.parse?_text (.withSchema (.withSchema (.object (by decide) ?_) _) _)
    simp only [List.forall_mem_cons, List.not_mem_nil, false_implies, implies_true, and_true]
    exact ⟨.integer ⟨by decide, by decide⟩, .integer ⟨by decide, by decide⟩⟩
  have noRows : tracker.rows = [] := by decide +kernel
  obtain ⟨_, _, _, _, _, holds⟩ := row_holds_event tracker event 5
  obtain ⟨row, stored, rows, isStored, decodes⟩ := holds base64 ⟨9⟩ tracked
  rw [noRows, List.nil_append] at rows
  have decodesContexts := (decodes Json.parse?).1
  have decodesBody := ((decodes Json.parse?).2 "iglu:host/event" rfl).2
  rw [isGiven, ← contextsJson_eq] at decodesContexts
  rw [isFields, ← bodyJson_eq] at decodesBody
  have present : [own] ++ [gdpr.entity] ++ [added] ≠ [] := by simp
  exact ⟨tracked, row, stored, rows, isStored, decodesContexts present readContexts,
    decodesBody readBody⟩

end Tracker

end Telemetry

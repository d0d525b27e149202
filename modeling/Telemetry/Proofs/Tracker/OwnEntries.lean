import Telemetry.Proofs.Tracker.Contents

/-!
Contract: the fields of an event never displace what a payload holds of the tracker's own.

Owns:
- the entries that are the tracker's own: its names, the subject, the name, identifier and
  instants of the event, and the context entities;
- that they stand whatever the fields are;
- the keys that fields can reach if the event has a schema.

Does not own: where fields come from. The data of an event and the values of machines are one
map by then.
-/

namespace Telemetry

namespace Payload

variable {payload other : Payload} {wanted : String}

/-! ### Equal entries stay equal -/

theorem get?_insert_congr (same : payload.get? wanted = other.get? wanted) (key value : String) :
    (payload.insert key value).get? wanted = (other.insert key value).get? wanted := by
  rw [get?_insert, get?_insert, same]

theorem get?_insertOption_congr (same : payload.get? wanted = other.get? wanted) (key : String)
    (value : Option String) :
    (payload.insertOption key value).get? wanted = (other.insertOption key value).get? wanted := by
  cases value with
  | none => exact same
  | some text => exact get?_insert_congr same key text

theorem get?_insertJson_congr (same : payload.get? wanted = other.get? wanted) (value : Json)
    (encode : Bool) (encodedKey plainKey : String) :
    (payload.insertJson value encode encodedKey plainKey).get? wanted =
      (other.insertJson value encode encodedKey plainKey).get? wanted := by
  cases encode <;> exact get?_insert_congr same _ _

end Payload

theorem Event.name_isEmpty (event : Event) : event.name.isEmpty = false := by
  have named : ∀ name ∈ EventNames.all, name.isEmpty = false := by decide
  exact named _ event.kind.name_mem_all

namespace Build

/-! ### Entries of the tracker's own -/

/-- The key of the body of an event with a schema. -/
def bodyKey (base64 : Bool) : String :=
  if base64 then Keys.unstructuredEncoded else Keys.unstructured

/-- The key of the context entities. -/
def contextKey (base64 : Bool) : String := if base64 then Keys.contextEncoded else Keys.context

/-- The context entities as they are written. -/
def contextText (base64 : Bool) (entities : List Entity) : String :=
  let text := (contextsJson entities).text
  if base64 then Base64Url.encodeText text else text

/-- A key with the value that the tracker has for it. -/
inductive OwnEntry (settings : TrackerSettings) (subject : Option Subject) (event : ObservedEvent)
    (entities : List Entity) : String → String → Prop where
  | version : OwnEntry settings subject event entities Keys.trackerVersion trackerVersion
  | scope : settings.scope ≠ "" →
      OwnEntry settings subject event entities Keys.trackerNamespace settings.scope
  | appId : settings.appId ≠ "" →
      OwnEntry settings subject event entities Keys.appId settings.appId
  | platform : settings.platform ≠ "" →
      OwnEntry settings subject event entities Keys.platform settings.platform
  | subject {known : Subject} {key value : String} :
      subject = some known → (key, some value) ∈ known.entries → value ≠ "" →
      OwnEntry settings subject event entities key value
  | name : OwnEntry settings subject event entities Keys.event event.name
  | eventId : OwnEntry settings subject event entities Keys.eventId event.id.text
  | deviceTimestamp :
      OwnEntry settings subject event entities Keys.deviceTimestamp
        (Decimal.integerText event.timestamp)
  | trueTimestamp {instant : Int} : event.trueTimestamp = some instant →
      OwnEntry settings subject event entities Keys.trueTimestamp (Decimal.integerText instant)
  | contexts : entities ≠ [] →
      OwnEntry settings subject event entities (contextKey settings.base64)
        (contextText settings.base64 entities)

variable {settings : TrackerSettings} {subject : Option Subject} {event : ObservedEvent}
  {entities : List Entity} {key value : String}

/-- The context entities take the place of a field under their key. -/
theorem get?_payload_contexts (fields : Fields) (present : entities ≠ []) :
    (payload settings subject event fields entities).get? (contextKey settings.base64) =
      some (contextText settings.base64 entities) := by
  have hasText := object_text_isEmpty [("data", .array (entities.map Entity.toJson)),
    ("schema", .string Schemas.contexts)]
  have notEmpty : entities.isEmpty = false := by simpa using present
  have notPromoted : Keys.pageUrl ≠ contextKey settings.base64 ∧
      Keys.pageReferrer ≠ contextKey settings.base64 := by
    cases settings.base64 <;> decide
  rw [payload, get?_writePromoted _ _ notPromoted.1 notPromoted.2, writeContexts, notEmpty,
    if_neg Bool.false_ne_true]
  cases settings.base64 with
  | true => exact Payload.get?_insert_self _ (Base64Url.encodeText_isEmpty hasText)
  | false => exact Payload.get?_insert_self _ hasText

theorem get?_payload_of_own (fields : Fields) (named : event.name.isEmpty = false)
    (own : OwnEntry settings subject event entities key value) :
    (payload settings subject event fields entities).get? key = some value := by
  cases own with
  | version => exact get?_payload_of_start fields entities (by simp [startEntries]) rfl
  | scope present | appId present | platform present =>
      exact get?_payload_of_start fields entities (by simp [startEntries])
        (String.isEmpty_eq_false_iff.mpr present)
  | subject isKnown member present =>
      exact get?_payload_of_start fields entities (by simp [startEntries, isKnown, member])
        (String.isEmpty_eq_false_iff.mpr present)
  | name => exact get?_payload_of_start fields entities (by simp [startEntries]) named
  | eventId => exact get?_payload_eventId settings subject event fields entities
  | deviceTimestamp =>
      exact get?_payload_of_start fields entities (by simp [startEntries])
        (Decimal.integerText_isEmpty _)
  | trueTimestamp isTrue =>
      exact get?_payload_trueTimestamp settings subject fields entities isTrue
  | contexts present => exact get?_payload_contexts fields present

/-! ### The reach of fields -/

/-- Under a schema, fields reach the body, and from a received link the promoted addresses. -/
theorem get?_payload_of_schema {schema : String} (hasSchema : event.schema = some schema)
    (fields others : Fields) (notBody : key ≠ bodyKey settings.base64)
    (notPromoted : schema = Schemas.deepLinkReceived →
      key ≠ Keys.pageUrl ∧ key ≠ Keys.pageReferrer) :
    (payload settings subject event fields entities).get? key =
      (payload settings subject event others entities).get? key := by
  have unwritten : ∀ given start, (writeEvent settings.base64 (some schema) given start).get? key =
      start.get? key := fun given start =>
    start.get?_insertJson_of_other (bodyJson schema given) (Ne.symm notBody)
  have contexts : ∀ {start other : Payload}, start.get? key = other.get? key →
      (writeContexts settings.base64 entities start).get? key =
        (writeContexts settings.base64 entities other).get? key := by
    intro start other same
    unfold writeContexts
    split
    · exact same
    · exact Payload.get?_insertJson_congr same _ _ _ _
  rw [payload, payload, hasSchema]
  by_cases received : schema = Schemas.deepLinkReceived
  · obtain ⟨notUrl, notReferrer⟩ := notPromoted received
    rw [get?_writePromoted _ _ notUrl.symm notReferrer.symm,
      get?_writePromoted _ _ notUrl.symm notReferrer.symm]
    exact contexts ((unwritten _ _).trans (unwritten _ _).symm)
  · have shown : promoted (some schema) fields entities =
        promoted (some schema) others entities := by
      simp [promoted, received]
    rw [shown, writePromoted, writePromoted]
    exact Payload.get?_insertOption_congr (Payload.get?_insertOption_congr
      (contexts ((unwritten _ _).trans (unwritten _ _).symm)) _ _) _ _

/-- Whatever two maps of fields an event has, both payloads hold the tracker's own entries. Under
a schema the payloads differ at most in the body and, for a received link, in the address and
the referrer. -/
theorem fields_displace_no_own_entry (settings : TrackerSettings) (subject : Option Subject)
    (event : Event) (id : Uuid) (timestamp : Int) (entities : List Entity)
    (fields others : Fields) :
    let observed := ObservedEvent.ofEvent event id timestamp
    let first := payload settings subject observed fields entities
    let second := payload settings subject observed others entities
    (∀ key value, OwnEntry settings subject observed entities key value →
        first.get? key = some value ∧ second.get? key = some value) ∧
      ∀ schema, event.schema? = some schema → ∀ key, key ≠ bodyKey settings.base64 →
        (schema = Schemas.deepLinkReceived → key ≠ Keys.pageUrl ∧ key ≠ Keys.pageReferrer) →
        first.get? key = second.get? key := by
  intro observed first second
  constructor
  · intro key value own
    exact ⟨get?_payload_of_own fields event.name_isEmpty own,
      get?_payload_of_own others event.name_isEmpty own⟩
  · intro schema hasSchema key notBody notPromoted
    exact get?_payload_of_schema hasSchema fields others notBody notPromoted

/-- Fields under the keys of the tracker: an event without a schema keeps its name, the
application, the user and the context entities, and a received link has no language from them,
though the subject's is empty. -/
theorem hostile_fields_displace_no_own_entry :
    let settings : TrackerSettings := { scope := "", appId := "shop", base64 := false }
    let subject : Subject := { userId := some "u", language := some "" }
    let entities : List Entity := [⟨"iglu:host/own", []⟩]
    let hostile : Fields := [("aid", .string "x"), ("co", .string "x"), ("e", .string "pv"),
      ("lang", .string "x"), ("uid", .string "x"), ("url", .string "x://y")]
    let plain : Event := { kind := .structured { category := "c", action := "a" } }
    let link : Event := { kind := .selfDescribing ⟨Schemas.deepLinkReceived, []⟩ }
    let built := fun event fields => payload settings (some subject) (.ofEvent event ⟨9⟩ 7) fields
      entities
    (built plain hostile).get? Keys.event = some "se" ∧
      (built plain hostile).get? Keys.appId = some "shop" ∧
      (built plain hostile).get? Keys.userId = some "u" ∧
      (built plain hostile).get? Keys.context = some (contextsJson entities).text ∧
      (built link hostile).get? Keys.language = (built link []).get? Keys.language := by
  intro settings subject entities hostile plain link built
  obtain ⟨own, _⟩ := fields_displace_no_own_entry settings (some subject) plain ⟨9⟩ 7 entities
    hostile []
  obtain ⟨_, reach⟩ := fields_displace_no_own_entry settings (some subject) link ⟨9⟩ 7 entities
    hostile []
  have user : (Keys.userId, some "u") ∈ subject.entries := by decide
  exact ⟨(own _ _ .name).1, (own _ _ (.appId (by decide))).1,
    (own _ _ (.subject rfl user (by decide))).1, (own _ _ (.contexts (by decide))).1,
    reach Schemas.deepLinkReceived rfl Keys.language (by decide) (by decide)⟩

end Build

end Telemetry

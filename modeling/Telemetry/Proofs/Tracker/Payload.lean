import Telemetry.Tracker.Build

/-!
Contract: what is written first into a payload stays.

Owns:
- that a written entry stays what it is when entries under other keys are written, and that
  fields never take the place of an entry;
- the entries of the tracker, the subject and the event itself, as one list with distinct keys;
- that each of them with a text is an entry of the payload, as the identifier and the true
  instant always are.

Does not own: the other entries of a payload.
-/

namespace Telemetry

theorem Uuid.text_ne_empty (id : Uuid) : id.text.isEmpty = false := by
  rw [String.isEmpty_eq_false_iff]
  intro empty
  have noCharacters := congrArg String.toList empty
  simp [Uuid.text, Uuid.hyphenated] at noCharacters

theorem Decimal.integerText_isEmpty (value : Int) : (integerText value).isEmpty = false := by
  rw [String.isEmpty_eq_false_iff]
  intro empty
  have noCharacters := congrArg String.toList empty
  rw [integerText, String.toList_ofList, integerCharacters] at noCharacters
  split at noCharacters
  · cases noCharacters
  · exact Nat.toDigits_ne_nil noCharacters

namespace Payload

variable {key wanted : String}

theorem get?_insert_of_ne (payload : Payload) (differs : key ≠ wanted) (value : String) :
    (payload.insert key value).get? wanted = payload.get? wanted := by
  rw [get?_insert, if_neg fun both => differs both.1]

theorem get?_insert_self (payload : Payload) {value : String} (present : value.isEmpty = false) :
    (payload.insert key value).get? key = some value := by
  rw [get?_insert, if_pos ⟨rfl, present⟩]

theorem get?_insertOption_of_ne (payload : Payload) (differs : key ≠ wanted)
    (value : Option String) :
    (payload.insertOption key value).get? wanted = payload.get? wanted := by
  cases value with
  | none => rfl
  | some text => exact payload.get?_insert_of_ne differs text

/-- A JSON value is written under one of its two keys. -/
theorem get?_insertJson_of_other (payload : Payload) (value : Json) {encode : Bool}
    {encodedKey plainKey : String}
    (differs : (if encode then encodedKey else plainKey) ≠ wanted) :
    (payload.insertJson value encode encodedKey plainKey).get? wanted = payload.get? wanted := by
  cases encode <;> exact payload.get?_insert_of_ne differs _

theorem get?_insertJson_of_ne (payload : Payload) (value : Json) (encode : Bool)
    {encodedKey plainKey : String} (encodedDiffers : encodedKey ≠ wanted)
    (plainDiffers : plainKey ≠ wanted) :
    (payload.insertJson value encode encodedKey plainKey).get? wanted = payload.get? wanted := by
  refine payload.get?_insertJson_of_other value ?_
  cases encode
  · exact plainDiffers
  · exact encodedDiffers

theorem contains_of_get? {payload : Payload} {value : String}
    (held : payload.get? key = some value) : payload.contains key = true := by
  rw [contains, Entries.contains, ← get?, held]
  rfl

/-- Inserts the values that there are, one after the other. -/
def insertAll (payload : Payload) (entries : List (String × Option String)) : Payload :=
  entries.foldl (fun payload entry => payload.insertOption entry.1 entry.2) payload

theorem get?_insertAll_of_foreign (payload : Payload) {entries : List (String × Option String)}
    (foreign : key ∉ entries.map Prod.fst) :
    (payload.insertAll entries).get? key = payload.get? key := by
  unfold insertAll
  induction entries generalizing payload with
  | nil => rfl
  | cons entry rest inductionHypothesis =>
      rw [List.map_cons, List.mem_cons, not_or] at foreign
      rw [List.foldl_cons, inductionHypothesis _ foreign.2,
        get?_insertOption_of_ne _ (Ne.symm foreign.1)]

/-- Of values under distinct keys each stays. -/
theorem get?_insertAll_of_mem (payload : Payload) {entries : List (String × Option String)}
    (distinct : (entries.map Prod.fst).Nodup) {value : String}
    (member : (key, some value) ∈ entries) (present : value.isEmpty = false) :
    (payload.insertAll entries).get? key = some value := by
  induction entries generalizing payload with
  | nil => cases member
  | cons entry rest inductionHypothesis =>
      rw [List.map_cons, List.nodup_cons] at distinct
      rcases List.mem_cons.mp member with rfl | later
      · exact (get?_insertAll_of_foreign (payload.insert key value) distinct.1).trans
          (payload.get?_insert_self present)
      · exact inductionHypothesis (payload.insertOption entry.1 entry.2) distinct.2 later

end Payload

namespace Build

/-! ### The entries before the body of an event -/

/-- What is written first: the names of the tracker, the subject, and the name, the identifier
and the instants of the event. -/
def startEntries (settings : TrackerSettings) (subject : Option Subject) (event : ObservedEvent) :
    List (String × Option String) :=
  [(Keys.trackerVersion, some trackerVersion), (Keys.trackerNamespace, some settings.scope),
    (Keys.appId, some settings.appId), (Keys.platform, some settings.platform)] ++
  subject.elim [] Subject.entries ++
  [(Keys.event, some event.name), (Keys.eventId, some event.id.text),
    (Keys.deviceTimestamp, some (Decimal.integerText event.timestamp)),
    (Keys.trueTimestamp, event.trueTimestamp.map Decimal.integerText)]

/-- The keys of what is written first, with those of a subject. -/
def startKeys : List String :=
  [Keys.trackerVersion, Keys.trackerNamespace, Keys.appId, Keys.platform, Keys.userId,
    Keys.networkUserId, Keys.domainUserId, Keys.resolution, Keys.viewport, Keys.colorDepth,
    Keys.language, Keys.timezone, Keys.ipAddress, Keys.userAgent, Keys.event, Keys.eventId,
    Keys.deviceTimestamp, Keys.trueTimestamp]

theorem start_eq (settings : TrackerSettings) (subject : Option Subject) (event : ObservedEvent) :
    stampEvent event (base settings subject) =
      Payload.empty.insertAll (startEntries settings subject event) := by
  cases subject <;> rfl

theorem startEntries_keys (settings : TrackerSettings) (subject : Option Subject)
    (event : ObservedEvent) :
    ((startEntries settings subject event).map Prod.fst).Sublist startKeys := by
  cases subject with
  | none =>
      have keys : (startEntries settings none event).map Prod.fst =
          [Keys.trackerVersion, Keys.trackerNamespace, Keys.appId, Keys.platform, Keys.event,
            Keys.eventId, Keys.deviceTimestamp, Keys.trueTimestamp] := rfl
      rw [keys]
      decide
  | some subject => exact List.Sublist.refl startKeys

theorem startEntries_distinct (settings : TrackerSettings) (subject : Option Subject)
    (event : ObservedEvent) : ((startEntries settings subject event).map Prod.fst).Nodup :=
  List.Nodup.sublist (startEntries_keys settings subject event) (by decide)

/-- A field never takes the place of an entry that is there. -/
theorem get?_writeFields (fields : Fields) {payload : Payload} {key value : String}
    (held : payload.get? key = some value) :
    (writeFields fields payload).get? key = some value := by
  unfold writeFields
  induction fields generalizing payload with
  | nil => exact held
  | cons entry rest inductionHypothesis =>
      rw [List.foldl_cons]
      refine inductionHypothesis ?_
      split
      · exact held
      · next free =>
        have differs : entry.1 ≠ key := by
          rintro rfl
          exact free (Payload.contains_of_get? held)
        exact (payload.get?_insert_of_ne differs _).trans held

/-- The keys under which the body, the contexts and a promoted address are written. -/
def laterKeys : List String :=
  [Keys.unstructuredEncoded, Keys.unstructured, Keys.contextEncoded, Keys.context, Keys.pageUrl,
    Keys.pageReferrer]

/-- An entry that is written before the body of an event stays, whatever the fields and entities
are. -/
theorem get?_payload_of_stamped {settings : TrackerSettings} {subject : Option Subject}
    {event : ObservedEvent} (fields : Fields) (entities : List Entity) {key value : String}
    (stamped : (stampEvent event (base settings subject)).get? key = some value)
    (foreign : ∀ later ∈ laterKeys, later ≠ key) :
    (payload settings subject event fields entities).get? key = some value := by
  simp only [laterKeys, List.forall_mem_cons] at foreign
  obtain ⟨notEncodedBody, notBody, notEncodedContexts, notContexts, notUrl, notReferrer, _⟩ :=
    foreign
  have written : (writeEvent settings.base64 event.schema fields
      (stampEvent event (base settings subject))).get? key = some value := by
    unfold writeEvent
    split
    · rw [Payload.get?_insertJson_of_ne _ _ _ notEncodedBody notBody, stamped]
    · exact get?_writeFields fields stamped
  rw [payload, writePromoted, Payload.get?_insertOption_of_ne _ notReferrer,
    Payload.get?_insertOption_of_ne _ notUrl, writeContexts]
  split
  · exact written
  · rw [Payload.get?_insertJson_of_ne _ _ _ notEncodedContexts notContexts, written]

theorem foreign_of_mem_startKeys : ∀ key ∈ startKeys, ∀ later ∈ laterKeys, later ≠ key := by
  decide

/-- What is written first stays, unless it is empty. -/
theorem get?_payload_of_start {settings : TrackerSettings} {subject : Option Subject}
    {event : ObservedEvent} (fields : Fields) (entities : List Entity) {key value : String}
    (member : (key, some value) ∈ startEntries settings subject event)
    (present : value.isEmpty = false) :
    (payload settings subject event fields entities).get? key = some value := by
  have isStart : key ∈ startKeys := (startEntries_keys settings subject event).subset
    (List.mem_map_of_mem (f := Prod.fst) member)
  refine get?_payload_of_stamped fields entities ?_ (foreign_of_mem_startKeys key isStart)
  rw [start_eq]
  exact Payload.get?_insertAll_of_mem _ (startEntries_distinct settings subject event) member
    present

/-- The payload carries the event's identifier. -/
theorem get?_payload_eventId (settings : TrackerSettings) (subject : Option Subject)
    (event : ObservedEvent) (fields : Fields) (entities : List Entity) :
    (payload settings subject event fields entities).get? Keys.eventId =
      some event.id.text :=
  get?_payload_of_start fields entities (by simp [startEntries]) event.id.text_ne_empty

/-- The payload carries the instant that an event has of its own. -/
theorem get?_payload_trueTimestamp (settings : TrackerSettings) (subject : Option Subject)
    {event : ObservedEvent} (fields : Fields) (entities : List Entity) {instant : Int}
    (isTrue : event.trueTimestamp = some instant) :
    (payload settings subject event fields entities).get? Keys.trueTimestamp =
      some (Decimal.integerText instant) :=
  get?_payload_of_start fields entities (by simp [startEntries, isTrue])
    (Decimal.integerText_isEmpty instant)

end Build

end Telemetry

import Telemetry.Proofs.Tracker.Contents

/-!
Contract: the address and the referrer that a payload shows.

Owns:
- the text that an event with a schema shows as its address or referrer: a received link its
  own, a screen that of its first link;
- that these and no other texts are under the two keys, cut to the limit of schemes;
- that an event without a schema has under these keys what its fields have.

Does not own: how an address is cut.
-/

namespace Telemetry

theorem Payload.get?_insertOption_of_absent {payload : Payload} {key : String}
    (absent : payload.get? key = none) (value : Option String) :
    (payload.insertOption key value).get? key = value.filter fun text => !text.isEmpty := by
  cases value with
  | none => exact absent
  | some text =>
      rw [insertOption, get?_insert, absent, Option.filter_some]
      cases text.isEmpty <;> simp

namespace Build

/-! ### Shown texts -/

/-- The text that an event with a schema shows for a field: that of a received link is its own,
and that of a screen is its first link's. -/
inductive Shows (schema : String) (fields : Fields) (entities : List Entity) (field text : String) :
    Prop where
  | received : schema = Schemas.deepLinkReceived → fields.get? field = some (.string text) →
      Shows schema fields entities field text
  | screen {before after : List Entity} {link : Entity} : schema = Schemas.screenView →
      entities = before ++ link :: after →
      (∀ earlier ∈ before, earlier.schema ≠ Schemas.deepLink) →
      link.schema = Schemas.deepLink → link.data.get? field = some (.string text) →
      Shows schema fields entities field text

/-- The text that is promoted for a field. -/
def shown? (schema : String) (fields : Fields) (entities : List Entity) (field : String) :
    Option String :=
  if schema = Schemas.deepLinkReceived then
    fields.string? field
  else if schema = Schemas.screenView then
    (entities.find? fun entity => entity.schema == Schemas.deepLink).bind fun link =>
      link.string? field
  else
    none

theorem promoted_eq (schema : String) (fields : Fields) (entities : List Entity) :
    promoted (some schema) fields entities =
      (shown? schema fields entities "url", shown? schema fields entities "referrer") := by
  simp only [promoted, shown?, Option.some.injEq]
  split
  · rfl
  · split
    · cases entities.find? fun entity => entity.schema == Schemas.deepLink <;> rfl
    · rfl

theorem shown?_eq_some_iff {schema : String} {fields : Fields} {entities : List Entity}
    {field text : String} :
    shown? schema fields entities field = some text ↔ Shows schema fields entities field text := by
  have differ : Schemas.screenView ≠ Schemas.deepLinkReceived := by decide
  constructor
  · intro isShown
    rw [shown?] at isShown
    split at isShown
    · next received => exact .received received (Fields.string?_eq_some_iff.mp isShown)
    · split at isShown
      · next isScreen =>
        obtain ⟨link, isFirst, held⟩ := Option.bind_eq_some_iff.mp isShown
        obtain ⟨isLink, before, after, split, earlier⟩ := List.find?_eq_some_iff_append.mp isFirst
        refine .screen isScreen split ?_ (by simpa using isLink)
          (Fields.string?_eq_some_iff.mp held)
        exact fun other member => by simpa using earlier other member
      · cases isShown
  · intro shows
    cases shows with
    | received received held => rw [shown?, if_pos received, Fields.string?_eq_some_iff.mpr held]
    | screen isScreen split earlier isLink held =>
        have isFirst : (entities.find? fun entity => entity.schema == Schemas.deepLink) =
            some _ :=
          List.find?_eq_some_iff_append.mpr ⟨by simpa using isLink, _, _, split,
            fun other member => by simpa using earlier other member⟩
        rw [shown?, if_neg (isScreen ▸ differ), if_pos isScreen, isFirst, Option.bind_some]
        exact Fields.string?_eq_some_iff.mpr held

/-- An address that is cut is empty only if it was empty before. -/
theorem truncateScheme_isEmpty (address : String) :
    (truncateScheme address).isEmpty = address.isEmpty := by
  unfold truncateScheme
  split
  · rfl
  · next scheme rest separated =>
    split
    · have present : address.toList ≠ [] := by
        intro empty
        rw [empty] at separated
        cases separated
      rw [Bool.eq_iff_iff, String.isEmpty_iff, String.isEmpty_iff, ← String.toList_eq_nil_iff,
        ← String.toList_eq_nil_iff, String.toList_ofList]
      simp [present]
    · rfl

/-! ### Promotion -/

/-- The keys that texts are promoted to, with the fields that they come from. -/
def promotions : List (String × String) :=
  [(Keys.pageUrl, "url"), (Keys.pageReferrer, "referrer")]

variable {settings : TrackerSettings} {subject : Option Subject} {event : ObservedEvent}
  {fields : Fields} {entities : List Entity} {key field : String}

theorem key_of_mem_promotions (isPromotion : (key, field) ∈ promotions) :
    key = Keys.pageUrl ∨ key = Keys.pageReferrer := by
  simp only [promotions, List.mem_cons, Prod.mk.injEq, List.not_mem_nil, or_false] at isPromotion
  exact isPromotion.imp And.left And.left

/-- Nothing that is written first is under a key of promotions. -/
theorem get?_start_of_promotion (isPromotion : (key, field) ∈ promotions) :
    (stampEvent event (base settings subject)).get? key = none := by
  refine get?_start_of_foreign ?_
  rcases key_of_mem_promotions isPromotion with rfl | rfl <;> decide

theorem get?_payload_of_promotion {schema : String} (hasSchema : event.schema = some schema)
    (isPromotion : (key, field) ∈ promotions) :
    (payload settings subject event fields entities).get? key =
      ((shown? schema fields entities field).map truncateScheme).filter
        fun text => !text.isEmpty := by
  have absent : (writeContexts settings.base64 entities
      (writeEvent settings.base64 (some schema) fields
        (stampEvent event (base settings subject)))).get? key = none := by
    rw [writeEvent]
    rcases key_of_mem_promotions isPromotion with rfl | rfl <;>
      rw [get?_writeContexts _ _ _ (by decide) (by decide),
        Payload.get?_insertJson_of_ne _ _ _ (by decide) (by decide),
        get?_start_of_promotion isPromotion]
  rw [payload, hasSchema, promoted_eq, writePromoted]
  simp only [promotions, List.mem_cons, Prod.mk.injEq, List.not_mem_nil, or_false] at isPromotion
  rcases isPromotion with ⟨rfl, rfl⟩ | ⟨rfl, rfl⟩
  · rw [Payload.get?_insertOption_of_ne _ (by decide), Payload.get?_insertOption_of_absent absent]
  · rw [Payload.get?_insertOption_of_absent]
    rwa [Payload.get?_insertOption_of_ne _ (by decide)]

/-! ### Fields of an event without a schema -/

/-- Of the fields under a free key the first one that has a text is written. -/
theorem get?_writeFields_of_absent {payload : Payload} (absent : payload.get? key = none) :
    (writeFields fields payload).get? key =
      (fields.find? fun entry => entry.1 == key && !(fieldText entry.2).isEmpty).map
        fun entry => fieldText entry.2 := by
  induction fields generalizing payload with
  | nil => exact absent
  | cons entry rest inductionHypothesis =>
      have first : writeFields (entry :: rest) payload = writeFields rest
          (if payload.contains entry.1 then payload
            else payload.insert entry.1 (fieldText entry.2)) := rfl
      rw [first, List.find?_cons]
      -- an entry that writes settles the key; any other leaves it free for the rest
      by_cases writes : entry.1 = key ∧ (fieldText entry.2).isEmpty = false
      · obtain ⟨rfl, hasText⟩ := writes
        have free : payload.contains entry.1 = false := by
          rw [Payload.contains, Entries.contains, ← Payload.get?, absent]
          rfl
        simp only [free, Bool.false_eq_true, if_false, BEq.rfl, hasText, Bool.not_false,
          Bool.and_self, Option.map_some]
        exact get?_writeFields rest (payload.get?_insert_self hasText)
      · have skips : (entry.1 == key && !(fieldText entry.2).isEmpty) = false := by
          simpa using writes
        simp only [skips]
        refine inductionHypothesis ?_
        split
        · exact absent
        · rw [Payload.get?_insert, if_neg writes, absent]

/-- Fields of a map under a free key are written if they have a text. -/
theorem get?_writeFields_eq_some_iff (ordered : fields.Ordered) {payload : Payload}
    (absent : payload.get? key = none) {value : String} :
    (writeFields fields payload).get? key = some value ↔
      value ≠ "" ∧ ∃ given, fields.get? key = some given ∧ fieldText given = value := by
  rw [get?_writeFields_of_absent absent, Option.map_eq_some_iff]
  constructor
  · rintro ⟨⟨name, given⟩, isFirst, rfl⟩
    have matching := List.find?_some isFirst
    simp only [Bool.and_eq_true, beq_iff_eq, Bool.not_eq_true'] at matching
    obtain ⟨rfl, hasText⟩ := matching
    exact ⟨String.isEmpty_eq_false_iff.mp hasText, given,
      (Entries.mem_iff_get? ordered).mp (List.mem_of_find?_eq_some isFirst), rfl⟩
  · rintro ⟨hasText, given, held, rfl⟩
    have member : (key, given) ∈ fields := (Entries.mem_iff_get? ordered).mpr held
    have found : (fields.find? fun entry =>
        entry.1 == key && !(fieldText entry.2).isEmpty).isSome = true :=
      List.find?_isSome.mpr ⟨(key, given), member, by simpa using hasText⟩
    obtain ⟨⟨name, other⟩, isFirst⟩ := Option.isSome_iff_exists.mp found
    have sameKey := List.find?_some isFirst
    simp only [Bool.and_eq_true, beq_iff_eq] at sameKey
    obtain ⟨rfl, _⟩ := sameKey
    have isOther := (Entries.mem_iff_get? ordered).mp (List.mem_of_find?_eq_some isFirst)
    obtain rfl := Option.some.inj (held.symm.trans isOther)
    exact ⟨_, isFirst, rfl⟩

/-- Without a schema nothing but the fields is written under a key of promotions. -/
theorem get?_payload_of_noSchema (noSchema : event.schema = none)
    (isPromotion : (key, field) ∈ promotions) :
    (payload settings subject event fields entities).get? key =
      (writeFields fields (stampEvent event (base settings subject))).get? key := by
  have nothing : promoted none fields entities = (none, none) := by simp [promoted]
  rw [payload, noSchema, nothing]
  rcases key_of_mem_promotions isPromotion with rfl | rfl <;>
    exact get?_writeContexts _ _ _ (by decide) (by decide)

/-- The payload of an event with a schema has an address exactly if the event is a received link
whose fields have one that is not empty, or a screen whose first link has; the address is that
text, cut to the limit of schemes. It is the same with the referrer. Without a schema these two
entries are the event's own fields, and are not cut. -/
theorem addresses_are_promoted (settings : TrackerSettings) (subject : Option Subject)
    (event : ObservedEvent) (fields : Fields) (entities : List Entity) :
    let built := payload settings subject event fields entities
    ∀ key field, (key, field) ∈ promotions →
      (∀ schema, event.schema = some schema → ∀ value,
        built.get? key = some value ↔
          ∃ text, text ≠ "" ∧ Shows schema fields entities field text ∧
            value = truncateScheme text) ∧
      (event.schema = none → fields.Ordered → ∀ value,
        built.get? key = some value ↔
          value ≠ "" ∧ ∃ given, fields.get? key = some given ∧ fieldText given = value) := by
  intro built key field isPromotion
  constructor
  · intro schema hasSchema value
    rw [get?_payload_of_promotion hasSchema isPromotion, Option.filter_eq_some_iff,
      Option.map_eq_some_iff]
    constructor
    · rintro ⟨⟨text, isShown, rfl⟩, hasText⟩
      refine ⟨text, ?_, shown?_eq_some_iff.mp isShown, rfl⟩
      rintro rfl
      rw [truncateScheme_isEmpty] at hasText
      cases hasText
    · rintro ⟨text, present, shows, rfl⟩
      refine ⟨⟨text, shown?_eq_some_iff.mpr shows, rfl⟩, ?_⟩
      rw [truncateScheme_isEmpty, Bool.not_eq_true', String.isEmpty_eq_false_iff]
      exact present
  · intro noSchema ordered value
    rw [get?_payload_of_noSchema noSchema isPromotion]
    exact get?_writeFields_eq_some_iff ordered (get?_start_of_promotion isPromotion)

/-- Of two links the first gives a screen its address, with a long scheme cut; a viewed page has
the same address whole. -/
theorem screen_shows_address_of_first_link :
    let long := "averyveryverylongscheme://open"
    let first : Entity := ⟨Schemas.deepLink, [("referrer", .null), ("url", .string long)]⟩
    let second : Entity := ⟨Schemas.deepLink, [("url", .string "app://second")]⟩
    let screen : ObservedEvent := .ofEvent (.screenView "home" ⟨1⟩ none) ⟨2⟩ 3
    let page : ObservedEvent := .ofEvent { kind := .pageView { url := long } } ⟨2⟩ 3
    Shows Schemas.screenView screen.data [⟨"iglu:a", []⟩, first, second] "url" long ∧
      (payload {} none screen screen.data [⟨"iglu:a", []⟩, first, second]).get? Keys.pageUrl =
        some "averyveryverylon://open" ∧
      page.data.Ordered ∧
      (payload {} none page page.data [first]).get? Keys.pageUrl = some long := by
  intro long first second screen page
  have split : [⟨"iglu:a", []⟩, first, second] = [⟨"iglu:a", []⟩] ++ first :: [second] := rfl
  have shows : Shows Schemas.screenView screen.data [⟨"iglu:a", []⟩, first, second] "url" long :=
    .screen rfl split (List.forall_mem_singleton.mpr (by decide)) rfl rfl
  have cut : "averyveryverylon://open" = truncateScheme long := by decide +kernel
  have ofScreen := (addresses_are_promoted {} none screen screen.data
    [⟨"iglu:a", []⟩, first, second] Keys.pageUrl "url" (by decide)).1 Schemas.screenView rfl
  have ofPage := (addresses_are_promoted {} none page page.data [first] Keys.pageUrl "url"
    (by decide)).2 rfl (by decide)
  exact ⟨shows, (ofScreen _).mpr ⟨long, by decide, shows, cut⟩, by decide,
    (ofPage long).mpr ⟨by decide, .string long, rfl, rfl⟩⟩

end Build

end Telemetry

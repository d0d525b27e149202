import Telemetry.Proofs.Delivery.Body
import Telemetry.Proofs.Text.QueryBytes
import Telemetry.Proofs.Tracker.Payload

/-!
Contract: the bytes that are counted for a query, beside the query that is sent.

Owns:
- what a payload costs as a query, by its bytes as JSON;
- when the limit that a query was made for holds of it, and what holds at any rate.

Does not own: bodies.
-/

namespace Telemetry

/-! ### Payloads -/

namespace Payload

/-- What the characters of entries cost in a query beyond their cost in JSON. -/
def querySurplus : List (String × String) → Int
  | [] => 0
  | (key, value) :: rest =>
    FormUrlEncoded.textSurplus key.toList + FormUrlEncoded.textSurplus value.toList +
      querySurplus rest

/-- A pair has one mark where JSON has a colon and four quotes. -/
theorem utf8Len_encodePair (key value : String) :
    (String.utf8Len (FormUrlEncoded.encodePair (key, value)) : Int) + 4 =
      String.utf8Len (writtenEntry (key, value)) + FormUrlEncoded.textSurplus key.toList +
        FormUrlEncoded.textSurplus value.toList := by
  have equalsSign : String.utf8Len ['='] = 1 := by decide
  have keyBytes := FormUrlEncoded.utf8Len_encodeText key
  have valueBytes := FormUrlEncoded.utf8Len_encodeText value
  simp only [FormUrlEncoded.encodePair, writtenEntry, String.utf8Len_append,
    Json.utf8Len_renderMember, Json.utf8Len_renderString, equalsSign]
  omega

theorem partsBytes_encodePair (entries : List (String × String)) :
    (Json.partsBytes (entries.map FormUrlEncoded.encodePair) : Int) + 4 * entries.length =
      entriesBytes entries + querySurplus entries := by
  induction entries with
  | nil => rfl
  | cons entry rest inductionHypothesis =>
      obtain ⟨key, value⟩ := entry
      have here := utf8Len_encodePair key value
      simp only [entriesBytes] at inductionHypothesis ⊢
      simp only [List.map_cons, Json.partsBytes, querySurplus, List.length_cons]
      omega

/-- What a payload costs as a query: the braces, and four quotes of each entry, are saved. -/
theorem utf8Len_encode (payload : Payload) (nonempty : payload.entries ≠ []) :
    (String.utf8Len (FormUrlEncoded.encode payload.entries) : Int) + 4 * payload.size + 2 =
      payload.byteSize + querySurplus payload.entries := by
  have ampersand : Char.utf8Size '&' = 1 := by decide
  have size := payload.byteSize_eq
  have parts := partsBytes_encodePair payload.entries
  have counted : 0 < entriesBytes payload.entries := by
    obtain ⟨entry, rest, isCons⟩ := List.exists_cons_of_ne_nil nonempty
    rw [isCons, entriesBytes, List.map_cons, Json.partsBytes]
    omega
  have joined : String.utf8Len (FormUrlEncoded.encode payload.entries) + 1 =
      Json.partsBytes (payload.entries.map FormUrlEncoded.encodePair) := by
    obtain ⟨entry, rest, isCons⟩ := List.exists_cons_of_ne_nil nonempty
    rw [FormUrlEncoded.encode, isCons, List.map_cons, Json.utf8Len_intercalate ampersand]
  rw [Payload.size]
  omega

theorem querySurplus_le (entries : List (String × String)) :
    querySurplus entries ≤ 2 * entriesBytes entries := by
  induction entries with
  | nil => exact Int.le_refl 0
  | cons entry rest inductionHypothesis =>
      obtain ⟨key, value⟩ := entry
      have keySurplus := FormUrlEncoded.textSurplus_le key.toList
      have valueSurplus := FormUrlEncoded.textSurplus_le value.toList
      simp only [entriesBytes] at inductionHypothesis ⊢
      simp only [List.map_cons, Json.partsBytes, querySurplus, writtenEntry,
        Json.utf8Len_renderMember, Json.utf8Len_renderString]
      omega

end Payload

/-! ### Queries -/

/-- The payload of a row as it is sent at an instant. -/
def QueuedEvent.sentPayload (event : QueuedEvent) (instant : Int) : Payload :=
  event.payload.insert Keys.sentTimestamp (Decimal.integerText instant)

theorem QueuedEvent.sentPayload_entries (event : QueuedEvent) (instant : Int) :
    (event.sentPayload instant).entries ≠ [] := by
  intro isNil
  have stamp : (event.sentPayload instant).get? Keys.sentTimestamp =
      some (Decimal.integerText instant) :=
    event.payload.get?_insert_self (Decimal.integerText_isEmpty instant)
  rw [Payload.get?, isNil] at stamp
  cases stamp

namespace Request

/-- The bytes of the query that a request is sent with at an instant. -/
def sentQueryBytes (request : Request) (instant : Int) : Nat :=
  String.utf8Len (HttpMessage.ofRequest .get (request.stamped instant)).query

theorem sentQueryBytes_single (event : QueuedEvent) (oversize : Bool) (instant : Int) :
    (sentQueryBytes ⟨[event], oversize⟩ instant : Int) +
        4 * (event.sentPayload instant).size + 2 =
      (event.sentPayload instant).byteSize +
        Payload.querySurplus (event.sentPayload instant).entries :=
  (event.sentPayload instant).utf8Len_encode (event.sentPayload_entries instant)

/-- A query that is not marked as too large costs at most three times what it was counted
for. -/
theorem sentQueryBytes_le {event : QueuedEvent} {limit sent : Nat}
    (short : (Nat.toDigits 10 sent).length ≤ 13)
    (fits : event.payload.byteSize + 22 ≤ limit) (oversize : Bool) :
    sentQueryBytes ⟨[event], oversize⟩ sent ≤ 3 * limit := by
  have counted := event.payload.byteSize_stamped_le short
  have query := sentQueryBytes_single event oversize sent
  have size := (event.sentPayload sent).byteSize_eq
  have surplus := Payload.querySurplus_le (event.sentPayload sent).entries
  rw [← QueuedEvent.sentPayload] at counted
  omega

theorem unmarked_of_mem_ofEventsGet {limit : Nat} {events : List QueuedEvent} {request : Request}
    {event : QueuedEvent} (member : request ∈ ofEventsGet limit events)
    (single : request.events = [event]) (fits : request.oversize = false) :
    request = ⟨[event], false⟩ ∧ event.payload.byteSize + 22 ≤ limit := by
  obtain ⟨other, rfl⟩ := mem_ofEventsGet member
  obtain rfl := List.singleton_inj.mp single
  simp only at fits
  exact ⟨by rw [fits], Nat.le_of_not_lt (of_decide_eq_false fits)⟩

/-- The limit holds of the queries of a row, for every limit that they are not over, exactly
if the surplus of the characters is not above what a query saves on marks. It holds of every
query up to a factor of three. -/
theorem query_within_limit_iff (event : QueuedEvent) (sent : Nat)
    (short : (Nat.toDigits 10 sent).length ≤ 13) :
    ((∀ capacity limit events, ∀ request ∈ ofEvents .get capacity limit events,
        request.events = [event] → request.oversize = false →
          request.sentQueryBytes sent ≤ limit) ↔
      Payload.querySurplus (event.sentPayload sent).entries ≤
        4 * (event.sentPayload sent).size + 2 +
          (event.payload.byteSize + 22 - (event.sentPayload sent).byteSize)) ∧
    ∀ capacity limit events, ∀ request ∈ ofEvents .get capacity limit events,
      request.events = [event] → request.oversize = false →
        request.sentQueryBytes sent ≤ 3 * limit := by
  have query := sentQueryBytes_single event false sent
  refine ⟨⟨fun within => ?_, ?_⟩, ?_⟩
  · -- the lowest limit that does not mark the row leaves no room
    have member : (⟨[event], false⟩ : Request) ∈
        ofEvents .get 1 (event.payload.byteSize + 22) [event] := by
      simp [ofEvents, ofEventsGet, queryBytes, stampBytes]
    have lowest := within _ _ _ _ member rfl rfl
    omega
  · intro bounded capacity limit events request member single fits
    obtain ⟨rfl, counted⟩ := unmarked_of_mem_ofEventsGet member single fits
    omega
  · intro capacity limit events request member single fits
    obtain ⟨rfl, counted⟩ := unmarked_of_mem_ofEventsGet member single fits
    exact sentQueryBytes_le short counted false

/-- A letter outside ASCII is within what the marks leave. -/
theorem query_with_accent_within_limit :
    let event : QueuedEvent := ⟨1, .ofPairs [("e", "pv"), ("p", "a é"), ("stm", "1")]⟩
    (Nat.toDigits 10 1700000000000).length ≤ 13 ∧
      ∀ capacity limit events, ∀ request ∈ ofEvents .get capacity limit events,
        request.events = [event] → request.oversize = false →
          request.sentQueryBytes (1700000000000 : Nat) ≤ limit := by
  intro event
  have short : (Nat.toDigits 10 1700000000000).length ≤ 13 := by decide
  exact ⟨short, (query_within_limit_iff event 1700000000000 short).1.mpr (by decide +kernel)⟩

/-- An address is not: 74 bytes are counted for it, and 76 are sent. -/
theorem address_query_exceeds_limit :
    let event : QueuedEvent :=
      ⟨1, .ofPairs [("e", "pv"), ("url", "https://shop.example.com/?a=1&b=2")]⟩
    let request : Request := ⟨[event], false⟩
    (Nat.toDigits 10 1700000000000).length ≤ 13 ∧
      request ∈ ofEvents .get 1 74 [event] ∧
      request.oversize = false ∧
      ¬ request.sentQueryBytes (1700000000000 : Nat) ≤ 74 := by
  decide +kernel

end Request

end Telemetry

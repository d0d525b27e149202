import Telemetry.Delivery.Message
import Telemetry.Proofs.Delivery.Grouping
import Telemetry.Proofs.Json.Size

/-!
Contract: the bytes that are counted for a body cover the message that is sent.

Owns:
- what the stamp adds to a payload;
- what a body costs, and that it stays within the limit that its request was filled to.

Does not own: queries.
-/

namespace Telemetry

/-! ### The stamp -/

namespace Payload

/-- The stamp of an instant with at most thirteen digits. -/
theorem utf8Len_stamp_le {sent : Nat} (short : (Nat.toDigits 10 sent).length ≤ 13) :
    String.utf8Len (writtenEntry (Keys.sentTimestamp, Decimal.integerText sent)) ≤ 21 := by
  have digits : (Decimal.integerText sent).toList = Nat.toDigits 10 sent := by
    have notNegative : ¬ (sent : Int) < 0 := by omega
    rw [Decimal.integerText, String.toList_ofList, Decimal.integerCharacters,
      if_neg notNegative, Int.natAbs_natCast]
  have key : String.utf8Len (Json.renderString Keys.sentTimestamp) = 5 := by decide
  have value : String.utf8Len (Json.renderString (Decimal.integerText sent)) =
      (Nat.toDigits 10 sent).length + 2 := by
    rw [Json.utf8Len_renderString, digits, Json.utf8Len_escaped_digits]
    intro digit member
    exact Nat.isDigit_of_mem_toDigits (by decide) (by decide) member
  rw [writtenEntry, Json.utf8Len_renderMember, key, value]
  omega

theorem byteSize_stamped_le (payload : Payload) {sent : Nat}
    (short : (Nat.toDigits 10 sent).length ≤ 13) :
    (payload.insert Keys.sentTimestamp (Decimal.integerText sent)).byteSize ≤
      payload.byteSize + 22 := by
  have added := payload.byteSize_insert_le Keys.sentTimestamp (Decimal.integerText sent)
  have stamp := utf8Len_stamp_le short
  omega

end Payload

/-! ### Bodies -/

namespace HttpMessage

/-- What payloads cost in a body. -/
def payloadsBytes : List Payload → Nat
  | [] => 0
  | payload :: rest => payload.byteSize + 1 + payloadsBytes rest

theorem partsBytes_payloads (payloads : List Payload) :
    Json.partsBytes (Json.renderItems (payloads.map Payload.toJson)) = payloadsBytes payloads := by
  induction payloads with
  | nil => rfl
  | cons payload rest inductionHypothesis =>
      have size : String.utf8Len payload.toJson.render = payload.byteSize := by
        rw [Payload.byteSize, Payload.text, Json.text, String.utf8ByteSize_ofList]
      rw [List.map_cons, Json.renderItems, Json.partsBytes, inductionHypothesis, size,
        payloadsBytes]

/-- A body is its payloads, a comma less than there are payloads, and 67 bytes around
them. -/
theorem utf8ByteSize_body (payloads : List Payload) :
    (bodyJson payloads).text.utf8ByteSize = 67 + (payloadsBytes payloads - 1) := by
  have braces : Char.utf8Size '\x7b' = 1 ∧ Char.utf8Size '\x7d' = 1 := by decide
  have brackets : Char.utf8Size '[' = 1 ∧ Char.utf8Size ']' = 1 := by decide
  have dataKey : String.utf8Len (Json.renderString "data") = 6 := by decide
  have schemaKey : String.utf8Len (Json.renderString "schema") = 8 := by decide
  have schema : String.utf8Len (Json.renderString Schemas.payloadData) = 46 := by decide
  rw [Json.text, String.utf8ByteSize_ofList, bodyJson, Json.render, Json.utf8Len_enclosed]
  simp only [Json.renderMembers, Json.render, Json.partsBytes, Json.utf8Len_renderMember,
    Json.utf8Len_enclosed, partsBytes_payloads, braces.1, braces.2, brackets.1, brackets.2,
    dataKey, schemaKey, schema]
  omega

end HttpMessage

namespace Request

theorem payloadsBytes_stamped_le (request : Request) {sent : Nat}
    (short : (Nat.toDigits 10 sent).length ≤ 13) :
    HttpMessage.payloadsBytes (request.stamped sent).payloads ≤ groupBytes request.events := by
  obtain ⟨events, oversize⟩ := request
  simp only [stamped, payloads, List.map_map]
  induction events with
  | nil => exact Nat.le_refl 0
  | cons event rest inductionHypothesis =>
      have stamped : _ ≤ event.payload.text.utf8ByteSize + 22 :=
        event.payload.byteSize_stamped_le short
      simp only [List.map_cons, Function.comp_apply, HttpMessage.payloadsBytes, groupBytes]
      omega

/-- The body of a request that is not marked as too large is within the limit that the
request was made for, when it is sent at an instant of at most thirteen digits. -/
theorem body_within_limit (capacity limit : Nat) (events : List QueuedEvent) (sent : Nat)
    (short : (Nat.toDigits 10 sent).length ≤ 13) :
    ∀ request ∈ ofEvents .post capacity limit events, request.oversize = false →
      (HttpMessage.ofRequest .post (request.stamped sent)).body.utf8ByteSize ≤ limit := by
  intro request member fits
  have filled := ofEventsPost_filled (max capacity 1) limit (by omega) [] 0 events
    (openGroup_nil _ _) request member
  have counted := (filled.bounded fits).2
  have stamped := request.payloadsBytes_stamped_le short
  have body : (HttpMessage.ofRequest .post (request.stamped sent)).body.utf8ByteSize =
      67 + (HttpMessage.payloadsBytes (request.stamped sent).payloads - 1) :=
    HttpMessage.utf8ByteSize_body _
  omega

/-- A body that is filled to the last counted byte, with a payload that was stamped before, one
without entries, and one whose text is escaped. -/
theorem full_body_within_limit :
    let events : List QueuedEvent :=
      [⟨1, .ofPairs [("stm", "1")]⟩, ⟨2, .empty⟩, ⟨3, .ofPairs [("e", "pv"), ("p", "\"é\n")]⟩]
    let request : Request := ⟨events, false⟩
    groupBytes events + 88 = 193 ∧
      (Nat.toDigits 10 9999999999999).length ≤ 13 ∧
      request ∈ ofEvents .post 3 193 events ∧
      request.oversize = false ∧
      (HttpMessage.ofRequest .post
        (request.stamped (9999999999999 : Nat))).body.utf8ByteSize ≤ 193 := by
  intro events request
  have short : (Nat.toDigits 10 9999999999999).length ≤ 13 := by decide
  have member : request ∈ ofEvents .post 3 193 events := by decide +kernel
  exact ⟨by decide +kernel, short, member, rfl,
    body_within_limit 3 193 events 9999999999999 short request member rfl⟩

end Request

end Telemetry

import Mathlib.Data.String.Basic
import Telemetry.Proofs.Json.Written

/-!
Contract: the bytes of written values.

Owns:
- what parts between two marks cost, by their own bytes and the commas;
- what one more entry adds to a payload.

Does not own: the limits that bytes are held to.
-/

namespace Telemetry

namespace Json

/-! ### Parts between two marks -/

/-- What parts cost, each with the mark after it. -/
def partsBytes : List (List Char) → Nat
  | [] => 0
  | part :: rest => String.utf8Len part + 1 + partsBytes rest

/-- Parts with a mark of one byte between them. -/
theorem utf8Len_intercalate {mark : Char} (small : mark.utf8Size = 1) (part : List Char)
    (rest : List (List Char)) :
    String.utf8Len (List.intercalate [mark] (part :: rest)) + 1 = partsBytes (part :: rest) := by
  have single : String.utf8Len [mark] = 1 := by
    rw [String.utf8Len_cons, String.utf8Len_nil, small]
  induction rest generalizing part with
  | nil => rw [List.intercalate_singleton, partsBytes, partsBytes, Nat.add_zero]
  | cons next rest inductionHypothesis =>
      have others := inductionHypothesis next
      rw [List.intercalate_cons_cons, String.utf8Len_append, String.utf8Len_append, single,
        partsBytes]
      omega

/-- There is no comma after the last part. -/
theorem utf8Len_enclosed (first last : Char) (parts : List (List Char)) :
    String.utf8Len (enclosed first last parts) =
      first.utf8Size + (partsBytes parts - 1) + last.utf8Size := by
  have between : String.utf8Len (List.intercalate [','] parts) = partsBytes parts - 1 := by
    cases parts with
    | nil => rfl
    | cons part rest =>
        have comma : Char.utf8Size ',' = 1 := by decide
        have joined := utf8Len_intercalate comma part rest
        omega
  simp only [enclosed, String.utf8Len_append, String.utf8Len_cons, String.utf8Len_nil,
    Nat.zero_add, between]

theorem utf8Len_renderString (text : String) :
    String.utf8Len (renderString text) = String.utf8Len (text.toList.flatMap escaped) + 2 := by
  have quote : String.utf8Len ['"'] = 1 := by decide
  rw [renderString, String.utf8Len_append, String.utf8Len_append, quote]
  omega

theorem utf8Len_renderMember (key : String) (value : List Char) :
    String.utf8Len (renderMember key value) =
      String.utf8Len (renderString key) + 1 + String.utf8Len value := by
  have colon : String.utf8Len [':'] = 1 := by decide
  rw [renderMember, String.utf8Len_append, String.utf8Len_append, colon]

/-! ### Characters -/

/-- Outside ASCII, a character is written as it is. -/
theorem escaped_of_le {character : Char} (wide : 128 ≤ character.toNat) :
    escaped character = [character] := by
  unfold escaped
  split
  case h_8 => rw [if_neg (by omega)]
  all_goals exact absurd wide (by decide)

theorem escaped_of_isDigit {digit : Char} (isDigit : digit.isDigit = true) :
    escaped digit = [digit] := by
  have printable : 0x30 ≤ digit.toNat := (Char.isDigit_iff_toNat.mp isDigit).1
  unfold escaped
  split
  case h_8 => rw [if_neg (by omega)]
  all_goals exact absurd isDigit (by decide)

theorem utf8Size_of_isDigit {digit : Char} (isDigit : digit.isDigit = true) :
    digit.utf8Size = 1 := by
  have ascii : digit.toNat ≤ 0x39 := (Char.isDigit_iff_toNat.mp isDigit).2
  rw [Char.utf8Size_eq_one_iff, UInt32.le_iff_toNat_le]
  exact Nat.le_trans ascii (by decide)

/-- Digits are written as they are, a byte for each. -/
theorem utf8Len_escaped_digits {digits : List Char}
    (areDigits : ∀ digit ∈ digits, digit.isDigit = true) :
    String.utf8Len (digits.flatMap escaped) = digits.length := by
  induction digits with
  | nil => rfl
  | cons digit rest inductionHypothesis =>
      have isDigit := areDigits digit (by simp)
      have others := inductionHypothesis fun other member =>
        areDigits other (List.mem_cons_of_mem _ member)
      rw [List.flatMap_cons, escaped_of_isDigit isDigit, List.singleton_append,
        String.utf8Len_cons, utf8Size_of_isDigit isDigit, others, List.length_cons]

end Json

/-! ### Payloads -/

namespace Payload

/-- What the entries of a payload cost. -/
def entriesBytes (entries : List (String × String)) : Nat :=
  Json.partsBytes (entries.map writtenEntry)

theorem byteSize_eq (payload : Payload) :
    payload.byteSize = 2 + (entriesBytes payload.entries - 1) := by
  have brace : Char.utf8Size '\x7b' = 1 ∧ Char.utf8Size '\x7d' = 1 := by decide
  rw [byteSize, text, Json.text, String.utf8ByteSize_ofList, render_toJson,
    Json.utf8Len_enclosed, brace.1, brace.2, entriesBytes]
  omega

/-- An entry is added, or takes the place of another. -/
theorem entriesBytes_insert_le (entries : Entries String String) (key value : String) :
    entriesBytes (entries.insert key value) ≤
      entriesBytes entries + String.utf8Len (writtenEntry (key, value)) + 1 := by
  induction entries with
  | nil =>
      simp only [Entries.insert, entriesBytes, List.map_cons, List.map_nil, Json.partsBytes]
      omega
  | cons entry rest inductionHypothesis =>
      obtain ⟨first, held⟩ := entry
      simp only [entriesBytes] at inductionHypothesis
      simp only [Entries.insert, entriesBytes]
      split_ifs <;> simp only [List.map_cons, Json.partsBytes] <;> omega

theorem byteSize_insert_le (payload : Payload) (key value : String) :
    (payload.insert key value).byteSize ≤
      payload.byteSize + String.utf8Len (writtenEntry (key, value)) + 1 := by
  by_cases blank : value.isEmpty = true
  · rw [insert, if_pos blank]
    omega
  · have added := entriesBytes_insert_le payload.entries key value
    have same : (payload.put key value).entries = payload.entries.insert key value := rfl
    rw [insert, if_neg blank, byteSize_eq, byteSize_eq, same]
    omega

end Payload

end Telemetry

import Telemetry.Proofs.Json.Size
import Telemetry.Proofs.Text.FormUrlEncoded

/-!
Contract: the bytes of a text in a query, beside its bytes in a JSON text.

Owns:
- what each byte costs in a query;
- what each character costs in a query beyond its cost in JSON, exactly, and the same for
  texts;
- that a query costs at most three times as much.

Does not own: the marks around texts, which payloads and queries have.
-/

namespace Telemetry.FormUrlEncoded

/-! ### Bytes -/

/-- Whether one sign is written for a byte: it stands for itself, or it is a space. -/
def isShort (byte : UInt8) : Bool := isPlain byte || byte == 32

theorem utf8Len_encodeByte_ofNat : ∀ code < 256,
    String.utf8Len (encodeByte (UInt8.ofNat code)) =
      if isShort (UInt8.ofNat code) then 1 else 3 := by
  decide +kernel

theorem utf8Len_encodeByte (byte : UInt8) :
    String.utf8Len (encodeByte byte) = if isShort byte then 1 else 3 := by
  have counted := utf8Len_encodeByte_ofNat byte.toNat byte.toNat_lt
  rwa [UInt8.ofNat_toNat] at counted

theorem isShort_of_le {byte : UInt8} (high : 128 ≤ byte.toNat) : isShort byte = false := by
  have notSpace : byte ≠ 32 := by
    rintro rfl
    exact absurd high (by decide)
  have notPlain : isPlain byte = false := by
    by_contra plain
    have low := lt_of_isPlain (Bool.not_eq_false _ ▸ plain)
    omega
  simp [isShort, notPlain, notSpace]

theorem utf8Len_encoded_of_le {bytes : List UInt8} (high : ∀ byte ∈ bytes, 128 ≤ byte.toNat) :
    String.utf8Len (bytes.flatMap encodeByte) = 3 * bytes.length := by
  induction bytes with
  | nil => rfl
  | cons byte rest inductionHypothesis =>
      have others := inductionHypothesis fun other member =>
        high other (List.mem_cons_of_mem _ member)
      have escape := isShort_of_le (high byte List.mem_cons_self)
      rw [List.flatMap_cons, String.utf8Len_append, utf8Len_encodeByte, escape, others,
        List.length_cons]
      simp only [Bool.false_eq_true, if_false]
      omega

/-! ### Characters -/

/-- The signs of a character, which are those of its bytes. -/
def encodeCharacter (character : Char) : List Char :=
  (String.utf8EncodeChar character).flatMap encodeByte

theorem encodeText_eq (text : String) : encodeText text = text.toList.flatMap encodeCharacter := by
  have bytes : text.toUTF8.toList = text.toList.flatMap String.utf8EncodeChar := by
    rw [Base64Url.toList_eq_data, String.toUTF8, ← String.utf8Encode_toList, List.utf8Encode,
      List.toList_data_toByteArray]
  rw [encodeText, bytes, List.flatMap_assoc]
  rfl

/-- No byte of a character outside ASCII is an ASCII one. -/
theorem le_of_mem_utf8EncodeChar {character : Char} (wide : 128 ≤ character.toNat) {byte : UInt8}
    (member : byte ∈ String.utf8EncodeChar character) : 128 ≤ byte.toNat := by
  have notSingle : ¬ character.val.toNat ≤ 127 := Nat.not_le.mpr wide
  simp only [String.utf8EncodeChar, if_neg notSingle] at member
  -- two, three or four bytes; each is a sum with 128 or more
  split_ifs at member
  all_goals
    simp only [List.mem_cons, List.not_mem_nil, or_false] at member
    rcases member with rfl | rfl | rfl | rfl
    all_goals
      rw [UInt8.toNat_ofNat']
      omega

/-- What a character costs in a query beyond its cost in a JSON text: a short escape of
JSON is a byte less than that of a query, the code of a control character is three more. What
JSON writes as it is costs two more for each of its bytes, unless a query writes one sign for
it too. -/
def surplus (character : Char) : Int :=
  match character with
  | '"' | '\\' | '\x08' | '\x09' | '\x0a' | '\x0c' | '\x0d' => 1
  | other =>
    if other.toNat < 0x20 then
      -3
    else if other.toNat < 0x80 && isShort (UInt8.ofNat other.toNat) then
      0
    else
      2 * other.utf8Size

theorem surplus_of_le {character : Char} (wide : 128 ≤ character.toNat) :
    surplus character = 2 * character.utf8Size := by
  have notAscii : ¬ character.toNat < 128 := by omega
  unfold surplus
  split
  case h_8 => rw [if_neg (by omega), if_neg (by simp [notAscii])]
  all_goals exact absurd wide (by decide)

theorem utf8Len_encodeCharacter_ascii : ∀ code < 128,
    (String.utf8Len (encodeCharacter (Char.ofNat code)) : Int) =
      String.utf8Len (Json.escaped (Char.ofNat code)) + surplus (Char.ofNat code) := by
  decide +kernel

theorem utf8Len_encodeCharacter (character : Char) :
    (String.utf8Len (encodeCharacter character) : Int) =
      String.utf8Len (Json.escaped character) + surplus character := by
  by_cases wide : 128 ≤ character.toNat
  · -- JSON writes the character as it is, and a query escapes each of its bytes
    have bytes := utf8Len_encoded_of_le fun _ => le_of_mem_utf8EncodeChar wide
    rw [String.length_utf8EncodeChar] at bytes
    rw [encodeCharacter, bytes, Json.escaped_of_le wide, surplus_of_le wide, String.utf8Len_cons,
      String.utf8Len_nil]
    omega
  · have counted := utf8Len_encodeCharacter_ascii character.toNat (by omega)
    rwa [Char.ofNat_toNat] at counted

theorem surplus_le_ascii : ∀ code < 128,
    surplus (Char.ofNat code) ≤ 2 * String.utf8Len (Json.escaped (Char.ofNat code)) := by
  decide +kernel

/-- At worst a query writes three bytes for one. -/
theorem surplus_le (character : Char) :
    surplus character ≤ 2 * String.utf8Len (Json.escaped character) := by
  by_cases wide : 128 ≤ character.toNat
  · rw [surplus_of_le wide, Json.escaped_of_le wide, String.utf8Len_cons, String.utf8Len_nil]
    omega
  · have counted := surplus_le_ascii character.toNat (by omega)
    rwa [Char.ofNat_toNat] at counted

/-! ### Texts -/

/-- What the characters of a text cost in a query beyond their cost in JSON. -/
def textSurplus : List Char → Int
  | [] => 0
  | character :: rest => surplus character + textSurplus rest

theorem utf8Len_encodeText (text : String) :
    (String.utf8Len (encodeText text) : Int) =
      String.utf8Len (text.toList.flatMap Json.escaped) + textSurplus text.toList := by
  rw [encodeText_eq]
  induction text.toList with
  | nil => rfl
  | cons character rest inductionHypothesis =>
      have here := utf8Len_encodeCharacter character
      simp only [List.flatMap_cons, String.utf8Len_append, textSurplus]
      omega

theorem textSurplus_le (characters : List Char) :
    textSurplus characters ≤ 2 * String.utf8Len (characters.flatMap Json.escaped) := by
  induction characters with
  | nil => exact Int.le_refl 0
  | cons character rest inductionHypothesis =>
      have here := surplus_le character
      simp only [List.flatMap_cons, String.utf8Len_append, textSurplus]
      omega

end Telemetry.FormUrlEncoded

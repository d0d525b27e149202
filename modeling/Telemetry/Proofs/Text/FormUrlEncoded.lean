import Telemetry.FormUrlEncoded
import Telemetry.Proofs.Text.Base64

/-!
Contract: the pairs of a query are read back from its encoded form.

Owns:
- the bytes of a text, each by the sign or the escape that it is written as;
- that no encoded text holds a mark that separates, and what follows from it for the
  parts between the marks;
- whole queries.

Does not own: which pairs a query has.
-/

namespace Telemetry.FormUrlEncoded

/-! ### Bytes -/

theorem lt_of_isPlain {byte : UInt8} (plain : isPlain byte = true) : byte.toNat < 128 := by
  simp only [isPlain, Bool.or_eq_true, Bool.and_eq_true, decide_eq_true_eq, beq_iff_eq] at plain
  omega

/-- A byte below 128 is the code point of its character. -/
theorem toNat_ofNat_of_lt {byte : UInt8} (small : byte.toNat < 128) :
    (Char.ofNat byte.toNat).toNat = byte.toNat := by
  have valid : byte.toNat.isValidChar := .inl (by omega)
  rw [Char.ofNat, dif_pos valid]
  rfl

/-- No byte stands for itself whose character is read as something else. -/
theorem ofNat_ne_of_isPlain {byte : UInt8} (plain : isPlain byte = true) {mark : Char}
    (reserved : isPlain (UInt8.ofNat mark.toNat) = false) : Char.ofNat byte.toNat ≠ mark := by
  rintro rfl
  rw [toNat_ofNat_of_lt (lt_of_isPlain plain), UInt8.ofNat_toNat, plain] at reserved
  cases reserved

/-- One byte is read from what it is written as. -/
theorem decodeBytes?_encodeByte (byte : UInt8) (rest : List Char) :
    decodeBytes? (encodeByte byte ++ rest) = (decodeBytes? rest).map (byte :: ·) := by
  unfold encodeByte
  split
  · next plain =>
    have notEscape : Char.ofNat byte.toNat ≠ '%' := ofNat_ne_of_isPlain plain (by decide)
    have notSpace : Char.ofNat byte.toNat ≠ '+' := ofNat_ne_of_isPlain plain (by decide)
    have small := lt_of_isPlain plain
    rw [List.singleton_append, decodeBytes?]
    · simp [toNat_ofNat_of_lt small, plain, small]
    · exact fun _ _ _ escape _ => notEscape escape
    · exact notSpace
  · split
    · next space =>
      rw [space, List.singleton_append, decodeBytes?]
    · have bound := byte.toNat_lt
      have high := Hexadecimal.value?_upper ⟨byte.toNat / 16, by omega⟩
      have low := Hexadecimal.value?_upper ⟨byte.toNat % 16, by omega⟩
      have whole : byte.toNat / 16 * 16 + byte.toNat % 16 = byte.toNat := by omega
      simp only [List.cons_append, List.nil_append, decodeBytes?, high, low,
        Option.bind_eq_bind, Option.bind_some, whole, UInt8.ofNat_toNat]
      cases decodeBytes? rest <;> rfl

theorem decodeBytes?_encoded (bytes : List UInt8) :
    decodeBytes? (bytes.flatMap encodeByte) = some bytes := by
  induction bytes with
  | nil => rfl
  | cons byte rest inductionHypothesis =>
      rw [List.flatMap_cons, decodeBytes?_encodeByte, inductionHypothesis, Option.map_some]

theorem decodeText?_encodeText (text : String) : decodeText? (encodeText text) = some text := by
  have valid : text.toUTF8.IsValidUTF8 := text.isValidUTF8
  rw [decodeText?, encodeText, decodeBytes?_encoded, Option.bind_some,
    Base64Url.mk_toArray_toList, String.fromUTF8?, dif_pos valid]
  rfl

/-! ### Parts between marks -/

/-- The marks between pairs and within a pair. -/
def isMark (character : Char) : Bool := character == '&' || character == '='

theorem not_isMark_upper : ∀ value < 16, isMark (Hexadecimal.upper value) = false := by
  decide

theorem not_isMark_of_mem_encodeByte {byte : UInt8} {character : Char}
    (member : character ∈ encodeByte byte) : isMark character = false := by
  unfold encodeByte at member
  split at member
  · next plain =>
    obtain rfl := List.mem_singleton.mp member
    have notBetween : Char.ofNat byte.toNat ≠ '&' := ofNat_ne_of_isPlain plain (by decide)
    have notWithin : Char.ofNat byte.toNat ≠ '=' := ofNat_ne_of_isPlain plain (by decide)
    simp [isMark, notBetween, notWithin]
  · split at member
    · obtain rfl := List.mem_singleton.mp member
      rfl
    · have bound := byte.toNat_lt
      simp only [List.mem_cons, List.not_mem_nil, or_false] at member
      rcases member with rfl | rfl | rfl
      · rfl
      · exact not_isMark_upper _ (by omega)
      · exact not_isMark_upper _ (by omega)

theorem not_isMark_of_mem_encodeText {text : String} {character : Char}
    (member : character ∈ encodeText text) : isMark character = false := by
  obtain ⟨byte, _, inByte⟩ := List.mem_flatMap.mp member
  exact not_isMark_of_mem_encodeByte inByte

/-- An encoded text holds none of the marks. -/
theorem not_mem_encodeText {mark : Char} (marks : isMark mark = true) (text : String) :
    mark ∉ encodeText text := by
  intro member
  rw [not_isMark_of_mem_encodeText member] at marks
  cases marks

theorem splitAtMark_ne_nil (mark : Char) (characters : List Char) :
    splitAtMark mark characters ≠ [] := by
  cases characters with
  | nil => simp [splitAtMark]
  | cons character rest =>
      rw [splitAtMark]
      split
      · simp
      · split <;> simp

/-- Characters in front that are not the mark belong to the first part. -/
theorem splitAtMark_append {mark : Char} {front : List Char} (absent : mark ∉ front)
    {rest part : List Char} {parts : List (List Char)}
    (splits : splitAtMark mark rest = part :: parts) :
    splitAtMark mark (front ++ rest) = (front ++ part) :: parts := by
  induction front with
  | nil => exact splits
  | cons character others inductionHypothesis =>
      simp only [List.mem_cons, not_or] at absent
      obtain ⟨notHere, notLater⟩ := absent
      rw [List.cons_append, splitAtMark, inductionHypothesis notLater]
      simp only [if_neg (Ne.symm notHere), List.cons_append]

/-- A part that does not hold the mark ends where the mark stands. -/
theorem splitAtMark_mark {mark : Char} {front : List Char} (absent : mark ∉ front)
    (rest : List Char) :
    splitAtMark mark (front ++ mark :: rest) = front :: splitAtMark mark rest := by
  have opened : splitAtMark mark (mark :: rest) = [] :: splitAtMark mark rest := by
    rw [splitAtMark]
    cases splits : splitAtMark mark rest with
    | nil => exact absurd splits (splitAtMark_ne_nil mark rest)
    | cons part parts => simp only [if_true]
  rw [splitAtMark_append absent opened, List.append_nil]

theorem splitAtMark_single {mark : Char} {part : List Char} (absent : mark ∉ part) :
    splitAtMark mark part = [part] := by
  have splits := splitAtMark_append absent (show splitAtMark mark [] = [[]] from rfl)
  rwa [List.append_nil] at splits

theorem splitAtMark_intercalate {mark : Char} {parts : List (List Char)}
    (absent : ∀ part ∈ parts, mark ∉ part) (nonempty : parts ≠ []) :
    splitAtMark mark (List.intercalate [mark] parts) = parts := by
  induction parts with
  | nil => exact absurd rfl nonempty
  | cons part rest inductionHypothesis =>
      have absentHere := absent part List.mem_cons_self
      cases rest with
      | nil => rw [List.intercalate_singleton, splitAtMark_single absentHere]
      | cons next others =>
          have restSplits := inductionHypothesis
            (fun other member => absent other (List.mem_cons_of_mem part member))
            (List.cons_ne_nil next others)
          rw [List.intercalate_cons_cons, List.append_assoc, List.singleton_append,
            splitAtMark_mark absentHere, restSplits]

/-! ### Queries -/

theorem decodePair?_encodePair (pair : String × String) :
    decodePair? (encodePair pair) = some pair := by
  have absent : ∀ text, '=' ∉ encodeText text := not_mem_encodeText rfl
  have parts : splitAtMark '=' (encodePair pair) = [encodeText pair.1, encodeText pair.2] := by
    rw [encodePair, List.append_assoc, List.singleton_append, splitAtMark_mark (absent pair.1),
      splitAtMark_single (absent pair.2)]
  rw [decodePair?, parts]
  simp only [decodeText?_encodeText, Option.bind_eq_bind, Option.bind_some]

theorem not_mem_encodePair (pair : String × String) : '&' ∉ encodePair pair := by
  have absent : ∀ text, '&' ∉ encodeText text := not_mem_encodeText rfl
  simp [encodePair, absent]

theorem mapM_decodePair?_encoded (pairs : List (String × String)) :
    (pairs.map encodePair).mapM decodePair? = some pairs := by
  induction pairs with
  | nil => rfl
  | cons pair rest inductionHypothesis =>
      rw [List.map_cons, List.mapM_cons, decodePair?_encodePair, inductionHypothesis]
      rfl

/-- The pairs of a query, in their order, are read back from its encoded form. -/
theorem decode?_encode (pairs : List (String × String)) : decode? (encode pairs) = some pairs := by
  cases pairs with
  | nil => rfl
  | cons pair rest =>
      have absent : ∀ part ∈ (pair :: rest).map encodePair, '&' ∉ part := by
        intro part member
        obtain ⟨source, _, rfl⟩ := List.mem_map.mp member
        exact not_mem_encodePair source
      have splits := splitAtMark_intercalate absent (by simp)
      have present : (encode (pair :: rest)).isEmpty = false := by
        cases rest <;> simp [encode, encodePair, List.intercalate_cons_cons]
      rw [decode?, present]
      simp only [Bool.false_eq_true, if_false]
      rw [encode, splits, mapM_decodePair?_encoded]

end Telemetry.FormUrlEncoded

import Telemetry.Base64Url

/-!
Contract: decoding undoes encoding in the URL-safe base-64 alphabet.

Owns:
- that each character stands for the six bits that it was chosen for;
- groups of bytes, and the bytes of a text.

Does not own: which texts are no encoding.
-/

namespace Telemetry.Base64Url

/-! ### Bytes -/

theorem value?_digit : ∀ bits < 64, value? (digit bits) = some bits := by
  decide +kernel

/-- Each group of bytes is put together again from its groups of six bits. -/
theorem decode?_encode (bytes : List UInt8) : decode? (encode bytes) = some bytes := by
  induction bytes using encode.induct with
  | case1 => rfl
  | case2 a =>
      have aBound : a.toNat < 256 := a.toNat_lt
      have first : a.toNat / 4 * 4 + a.toNat % 4 * 16 / 16 = a.toNat := by omega
      have nothingLeft : a.toNat % 4 * 16 % 16 = 0 := by omega
      rw [encode, decode?, value?_digit _ (by omega), value?_digit _ (by omega)]
      simp only [Option.bind_eq_bind, Option.bind_some, if_pos nothingLeft, first,
        UInt8.ofNat_toNat]
  | case3 a b =>
      have aBound : a.toNat < 256 := a.toNat_lt
      have bBound : b.toNat < 256 := b.toNat_lt
      have first : a.toNat / 4 * 4 + (a.toNat % 4 * 16 + b.toNat / 16) / 16 = a.toNat := by omega
      have second : (a.toNat % 4 * 16 + b.toNat / 16) % 16 * 16 + b.toNat % 16 * 4 / 4 =
          b.toNat := by omega
      have nothingLeft : b.toNat % 16 * 4 % 4 = 0 := by omega
      rw [encode, decode?, value?_digit _ (by omega), value?_digit _ (by omega),
        value?_digit _ (by omega)]
      simp only [Option.bind_eq_bind, Option.bind_some, if_pos nothingLeft, first, second,
        UInt8.ofNat_toNat]
  | case4 a b c rest inductionHypothesis =>
      have aBound : a.toNat < 256 := a.toNat_lt
      have bBound : b.toNat < 256 := b.toNat_lt
      have cBound : c.toNat < 256 := c.toNat_lt
      have first : a.toNat / 4 * 4 + (a.toNat % 4 * 16 + b.toNat / 16) / 16 = a.toNat := by omega
      have second : (a.toNat % 4 * 16 + b.toNat / 16) % 16 * 16 +
          (b.toNat % 16 * 4 + c.toNat / 64) / 4 = b.toNat := by omega
      have third : (b.toNat % 16 * 4 + c.toNat / 64) % 4 * 64 + c.toNat % 64 = c.toNat := by
        omega
      rw [encode, decode?, value?_digit _ (by omega), value?_digit _ (by omega),
        value?_digit _ (by omega), value?_digit _ (by omega), inductionHypothesis]
      simp only [Option.bind_eq_bind, Option.bind_some, first, second, third,
        UInt8.ofNat_toNat]

/-! ### Texts -/

theorem toList_loop (bytes : ByteArray) (index : Nat) (before : List UInt8) :
    ByteArray.toList.loop bytes index before =
      before.reverse ++ bytes.data.toList.drop index := by
  induction index, before using ByteArray.toList.loop.induct bytes with
  | case1 index before inside inductionHypothesis =>
      have inList : index < bytes.data.toList.length := by
        rw [Array.length_toList]
        exact inside
      have next : bytes.get! index = bytes.data.toList[index] := by
        rw [Array.getElem_toList]
        exact getElem!_pos bytes.data index inside
      rw [ByteArray.toList.loop, if_pos inside, inductionHypothesis,
        List.drop_eq_getElem_cons inList, next, List.reverse_cons, List.append_assoc,
        List.singleton_append]
  | case2 index before outside =>
      have pastEnd : bytes.data.toList.length ≤ index := by
        rw [Array.length_toList]
        exact Nat.le_of_not_lt outside
      rw [ByteArray.toList.loop, if_neg outside, List.drop_of_length_le pastEnd,
        List.append_nil]

theorem toList_eq_data (bytes : ByteArray) : bytes.toList = bytes.data.toList :=
  toList_loop bytes 0 []

theorem mk_toArray_toList (bytes : ByteArray) : ByteArray.mk bytes.toList.toArray = bytes := by
  rw [toList_eq_data]

/-- Decoding the encoded text of a text gives the text. -/
theorem decodeText?_encodeText (text : String) : decodeText? (encodeText text) = some text := by
  have valid : text.toUTF8.IsValidUTF8 := text.isValidUTF8
  rw [decodeText?, encodeText, String.toList_ofList, decode?_encode, Option.bind_some,
    mk_toArray_toList, String.fromUTF8?, dif_pos valid]
  rfl

/-- Only the empty text is encoded as the empty text. -/
theorem encodeText_isEmpty {text : String} (present : text.isEmpty = false) :
    (encodeText text).isEmpty = false := by
  rw [String.isEmpty_eq_false_iff]
  intro nothing
  have decoded := decodeText?_encodeText text
  have decodedEmpty : decodeText? "" = some "" := by decide +kernel
  rw [nothing, decodedEmpty, Option.some.injEq] at decoded
  subst decoded
  cases present

end Telemetry.Base64Url

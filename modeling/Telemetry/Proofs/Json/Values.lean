import Telemetry.Proofs.Json.Written

/-!
Contract: the text of a value is read back as the value.

Owns:
- what may follow a number that is read;
- whole numbers, by their digits;
- the values whose text is read back, with the depth that they need, and that it is.

Does not own: which doubles are read back from their text; a value with doubles is read back
if each of them is.
-/

namespace Telemetry.Json

/-! ### Whole numbers -/

/-- No number goes on with these characters. -/
def EndsNumber : List Char → Prop
  | [] => True
  | mark :: _ => mark.isDigit = false ∧ mark ≠ '.' ∧ mark ≠ 'e' ∧ mark ≠ 'E'

theorem toDigits_isDigit {number : Nat} :
    ∀ digit ∈ Nat.toDigits 10 number, Decimal.isDigit digit = true :=
  fun _ member => Nat.isDigit_of_mem_toDigits (by decide) (by decide) member

theorem toDigits_first (number : Nat) :
    ∃ first others, Nat.toDigits 10 number = first :: others ∧ first.isDigit = true := by
  cases written : Nat.toDigits 10 number with
  | nil => exact absurd written Nat.toDigits_ne_nil
  | cons first others =>
      have member : first ∈ Nat.toDigits 10 number := by simp [written]
      exact ⟨first, others, rfl, toDigits_isDigit first member⟩

theorem takeDigits_written {digits rest : List Char}
    (areDigits : ∀ digit ∈ digits, Decimal.isDigit digit = true) (ends : EndsNumber rest) :
    Decimal.takeDigits (digits ++ rest) = (digits, rest) := by
  rw [Decimal.takeDigits, List.takeWhile_append_of_pos areDigits,
    List.dropWhile_append_of_pos areDigits]
  cases rest with
  | nil => rw [List.takeWhile_nil, List.append_nil, List.dropWhile_nil]
  | cons mark others =>
      have notDigit : Decimal.isDigit mark = false := ends.1
      rw [List.takeWhile_cons_of_neg (by simp [notDigit]), List.append_nil,
        List.dropWhile_cons_of_neg (by simp [notDigit])]

theorem digitsValue_toDigits (number : Nat) :
    Decimal.digitsValue (Nat.toDigits 10 number) = number := by
  have value := Nat.ofDigitChars_ten_toDigits (n := number)
  rwa [Nat.ofDigitChars_eq_foldl] at value

/-- Only zero is written with a zero in front. -/
theorem eq_zero_of_toDigits {number : Nat} {others : List Char}
    (zeroFirst : Nat.toDigits 10 number = '0' :: others) : number = 0 := by
  induction number using Nat.strongRecOn generalizing others with
  | ind number inductionHypothesis =>
      by_cases small : number < 10
      · rw [Nat.toDigits_of_lt_base small] at zeroFirst
        exact Nat.digitChar_eq_zero.mp (List.head_eq_of_cons_eq zeroFirst)
      · have large : 10 ≤ number := Nat.le_of_not_lt small
        obtain ⟨first, rest, front, _⟩ := toDigits_first (number / 10)
        rw [Nat.toDigits_of_base_le (by decide) large, front, List.cons_append] at zeroFirst
        rw [List.head_eq_of_cons_eq zeroFirst] at front
        have shorter := inductionHypothesis (number / 10) (by omega) front
        omega

theorem readWhole_written (number : Nat) {rest : List Char} (ends : EndsNumber rest) :
    readWhole (Nat.toDigits 10 number ++ rest) = some (Nat.toDigits 10 number, rest) := by
  rw [readWhole, takeDigits_written toDigits_isDigit ends]
  by_cases zero : number = 0
  · subst zero
    rfl
  · obtain ⟨first, others, written, _⟩ := toDigits_first number
    have notZero : first ≠ '0' := by
      rintro rfl
      exact zero (eq_zero_of_toDigits written)
    simp [written, notZero]

/-- What follows decides that the digits are the whole number. -/
theorem readUnsignedNumber_written (negative : Bool) (number : Nat) {rest : List Char}
    (ends : EndsNumber rest) :
    readUnsignedNumber negative (Nat.toDigits 10 number ++ rest) =
      (wholeNumber negative (Nat.toDigits 10 number)).map fun value => (value, rest) := by
  simp only [readUnsignedNumber, readWhole_written number ends, Option.bind_eq_bind,
    Option.bind_some]
  cases rest with
  | nil => cases wholeNumber negative (Nat.toDigits 10 number) <;> rfl
  | cons mark others =>
      obtain ⟨_, notPoint, notSmall, notCapital⟩ := ends
      split
      · next same => exact absurd (List.head_eq_of_cons_eq same) notPoint
      · next _ same =>
        rw [List.head_eq_of_cons_eq same] at notSmall notCapital
        rw [if_neg (by simp [notSmall, notCapital])]
        cases wholeNumber negative (Nat.toDigits 10 number) <;> rfl
      · next same => cases same

/-- The whole numbers with a 64-bit form, signed or not. -/
def HasWord (value : Int) : Prop := leastSigned ≤ value ∧ value ≤ greatestUnsigned

theorem readNumber_integer {value : Int} (hasWord : HasWord value) {rest : List Char}
    (ends : EndsNumber rest) :
    readNumber (Decimal.integerCharacters value ++ rest) = some (.integer value, rest) := by
  obtain ⟨low, high⟩ := hasWord
  by_cases negative : value < 0
  · have whole : wholeNumber true (Nat.toDigits 10 value.natAbs) = some (.integer value) := by
      have size : ((value.natAbs : Nat) : Int) = -value := by omega
      simp [wholeNumber, digitsValue_toDigits, size, low, negative]
    rw [Decimal.integerCharacters, if_pos negative, List.cons_append, readNumber,
      readUnsignedNumber_written true _ ends, whole, Option.map_some]
  · have whole : wholeNumber false (Nat.toDigits 10 value.natAbs) = some (.integer value) := by
      have size : ((value.natAbs : Nat) : Int) = value := by omega
      simp [wholeNumber, digitsValue_toDigits, size, high]
    have unsigned := readUnsignedNumber_written false value.natAbs ends
    rw [whole, Option.map_some] at unsigned
    rw [Decimal.integerCharacters, if_neg negative, readNumber]
    · exact unsigned
    · intro others minus
      obtain ⟨first, digits, written, isDigit⟩ := toDigits_first value.natAbs
      rw [written, List.cons_append] at minus
      rw [List.head_eq_of_cons_eq minus] at isDigit
      cases isDigit

/-! ### Values -/

/-- The text of a double is read back, whatever ends the number. -/
structure ReadsBack (value : Float) : Prop where
  reads : ∀ {rest}, EndsNumber rest →
    readNumber (numberLayout.characters value ++ rest) = some (.float value, rest)
  starts : ∃ first others, numberLayout.characters value = first :: others ∧
    (first = '-' ∨ first.isDigit = true)

/-- Values whose text is read back by a reader of some depth: whole numbers with a 64-bit form,
doubles that are read back, and objects in key order. -/
inductive Legible : (depth : Nat) → Json → Prop where
  | null {depth} : Legible depth .null
  | bool {depth} (value : Bool) : Legible depth (.bool value)
  | integer {depth} {value : Int} : HasWord value → Legible depth (.integer value)
  | float {depth} {value : Float} : ReadsBack value → Legible depth (.float value)
  | string {depth} (text : String) : Legible depth (.string text)
  | array {depth} {items : List Json} :
      (∀ item ∈ items, Legible depth item) → Legible (depth + 1) (.array items)
  | object {depth} {members : Fields} :
      members.Ordered → (∀ member ∈ members, Legible depth member.2) →
        Legible (depth + 1) (.object members)

/-- A number is read if a minus sign or a digit is in front. -/
theorem readValue_number (depth : Nat) {first : Char}
    (opens : first = '-' ∨ first.isDigit = true) (rest : List Char) :
    readValue depth (first :: rest) = readNumber (first :: rest) := by
  have number : ∀ {mark : Char} {others}, first :: rest = mark :: others →
      mark = '-' ∨ mark.isDigit = true :=
    fun same => List.head_eq_of_cons_eq same ▸ opens
  rw [readValue]
  all_goals
    intros
    next same => exact absurd (number same) (by decide)

/-- No blank and no closing mark is in front. -/
def OpensValue (characters : List Char) : Prop :=
  ∃ first others, characters = first :: others ∧ isSpace first = false ∧
    first ≠ ']' ∧ first ≠ '\x7d'

theorem opensValue_number {first : Char} (opens : first = '-' ∨ first.isDigit = true)
    (others : List Char) : OpensValue (first :: others) := by
  refine ⟨first, others, rfl, ?_, ?_, ?_⟩
  · rcases opens with rfl | isDigit
    · decide
    · rw [← Bool.not_eq_true]
      intro isBlank
      simp only [isSpace, Bool.or_eq_true, beq_iff_eq, or_assoc] at isBlank
      rcases isBlank with rfl | rfl | rfl | rfl <;> cases isDigit
  · rintro rfl
    exact absurd opens (by decide)
  · rintro rfl
    exact absurd opens (by decide)

theorem integerCharacters_first (value : Int) :
    ∃ first others, Decimal.integerCharacters value = first :: others ∧
      (first = '-' ∨ first.isDigit = true) := by
  by_cases negative : value < 0
  · exact ⟨'-', _, by rw [Decimal.integerCharacters, if_pos negative], .inl rfl⟩
  · obtain ⟨first, others, written, isDigit⟩ := toDigits_first value.natAbs
    exact ⟨first, others, by rw [Decimal.integerCharacters, if_neg negative, written],
      .inr isDigit⟩

theorem Legible.opensValue {depth : Nat} {value : Json} (legible : Legible depth value) :
    OpensValue value.render := by
  cases legible with
  | null => exact ⟨'n', _, rfl, by decide⟩
  | bool value => cases value <;> exact ⟨_, _, rfl, by decide⟩
  | integer hasWord =>
      obtain ⟨first, others, written, opens⟩ := integerCharacters_first _
      rw [render, written]
      exact opensValue_number opens others
  | float readsBack =>
      obtain ⟨first, others, written, opens⟩ := readsBack.starts
      rw [render, written]
      exact opensValue_number opens others
  | string text => exact ⟨'"', _, rfl, by decide⟩
  | array items => exact ⟨'[', _, rfl, by decide⟩
  | object ordered values => exact ⟨'\x7b', _, rfl, by decide⟩

theorem renderItems_eq (items : List Json) : renderItems items = items.map render := by
  induction items with
  | nil => rfl
  | cons item rest inductionHypothesis => rw [renderItems, inductionHypothesis, List.map_cons]

theorem renderMembers_eq (members : List (String × Json)) :
    renderMembers members = members.map fun member => renderMember member.1 member.2.render := by
  induction members with
  | nil => rfl
  | cons member rest inductionHypothesis =>
      rw [renderMembers, inductionHypothesis, List.map_cons]

/-- A reader of values takes the text of a value as the value. -/
def Reads (depth : Nat) (value : Json) : Prop :=
  ∀ {rest}, EndsNumber rest → readValue depth (value.render ++ rest) = some (value, rest)

theorem endsNumber_mark {mark close : Char} (marks : mark = ',' ∨ mark = close)
    (closes : close = ']' ∨ close = '\x7d') (rest : List Char) : EndsNumber (mark :: rest) := by
  rcases marks with rfl | rfl
  · exact ⟨by decide, by decide⟩
  · rcases closes with rfl | rfl <;> exact ⟨by decide, by decide⟩

theorem takesPart_item {depth : Nat} {item : Json} (legible : Legible depth item)
    (reads : Reads depth item) : TakesPart (readValue depth) ']' item.render item := by
  obtain ⟨first, others, written, notSpace, notClose, _⟩ := legible.opensValue
  refine ⟨?_, first, others, written, notSpace, notClose⟩
  intro mark rest marks
  exact reads (endsNumber_mark marks (.inl rfl) rest)

theorem takesPart_member {depth : Nat} {member : String × Json}
    (legible : Legible depth member.2) (reads : Reads depth member.2) :
    TakesPart (readMember (readValue depth)) '\x7d' (renderMember member.1 member.2.render)
      member := by
  obtain ⟨first, others, written, notSpace, _, _⟩ := legible.opensValue
  refine ⟨?_, '"', _, rfl, by decide, by decide⟩
  intro mark rest marks
  have keyRead := readText_written member.1 (':' :: (member.2.render ++ mark :: rest))
  have valueRead := reads (endsNumber_mark marks (.inr rfl) rest)
  rw [written, List.cons_append] at keyRead valueRead
  simp only [renderMember, renderString, List.append_assoc, List.cons_append, List.nil_append,
    readMember, written, keyRead, Option.bind_eq_bind, Option.bind_some,
    skipSpace_mark (show isSpace ':' = false by decide), skipSpace_mark notSpace, valueRead]

/-- The text of a value is read as the value. -/
theorem Legible.reads {depth : Nat} {value : Json} (legible : Legible depth value) :
    Reads depth value := by
  induction legible with
  | null =>
      intro rest _
      simp only [render, List.cons_append, List.nil_append, readValue]
  | bool value =>
      intro rest _
      cases value <;> simp only [render, List.cons_append, List.nil_append, readValue]
  | integer hasWord =>
      intro rest ends
      obtain ⟨first, others, written, opens⟩ := integerCharacters_first _
      have read := readNumber_integer hasWord ends
      rw [render]
      rw [written, List.cons_append] at read ⊢
      rw [readValue_number _ opens, read]
  | float readsBack =>
      intro rest ends
      obtain ⟨first, others, written, opens⟩ := readsBack.starts
      have read := readsBack.reads ends
      rw [render]
      rw [written, List.cons_append] at read ⊢
      rw [readValue_number _ opens, read]
  | string text =>
      intro rest _
      have read := readText_written text rest
      simp only [render, renderString, List.append_assoc, List.cons_append, List.nil_append,
        readValue, read, Option.bind_eq_bind, Option.bind_some]
  | @array depth items legible inductionHypothesis =>
      intro rest _
      have takes : List.Forall₂ (TakesPart (readValue depth) ']') (items.map render) items := by
        rw [List.forall₂_map_left_iff, List.forall₂_same]
        exact fun item member => takesPart_item (legible item member)
          (inductionHypothesis item member)
      have read := readEnclosed_written ⟨by decide, by decide⟩ takes rest
      simp only [render, renderItems_eq, enclosed, List.append_assoc, List.cons_append,
        List.nil_append, readValue, read, Option.bind_eq_bind, Option.bind_some]
  | @object depth members ordered legible inductionHypothesis =>
      intro rest _
      have takes : List.Forall₂ (TakesPart (readMember (readValue depth)) '\x7d')
          (members.map fun member => renderMember member.1 member.2.render) members := by
        rw [List.forall₂_map_left_iff, List.forall₂_same]
        exact fun member isMember => takesPart_member (legible member isMember)
          (inductionHypothesis member isMember)
      have read := readEnclosed_written ⟨by decide, by decide⟩ takes rest
      simp only [render, renderMembers_eq, enclosed, List.append_assoc, List.cons_append,
        List.nil_append, readValue, read, Option.bind_eq_bind, Option.bind_some,
        Entries.ofPairs_of_ordered ordered]

/-- The text of a value that does not nest too deeply is read back. -/
theorem parse?_text {value : Json} (legible : Legible nestingLimit value) :
    parse? value.text = some value := by
  have read : readValue nestingLimit (value.render ++ []) = some (value, []) :=
    legible.reads trivial
  obtain ⟨first, others, written, notSpace, _⟩ := legible.opensValue
  rw [List.append_nil] at read
  rw [parse?, readAll?, text, String.toList_ofList]
  rw [written] at read ⊢
  rw [skipSpace_mark notSpace, read]
  rfl

end Telemetry.Json

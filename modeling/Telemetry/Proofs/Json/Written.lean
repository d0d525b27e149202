import Mathlib.Data.List.Forall2
import Telemetry.Payload

/-!
Contract: what was written is read back.

Owns:
- a text between quotes, by one step for each escaped character;
- parts between two marks with commas between them, for any reader that takes each
  part before a comma or the closing mark;
- the text of a payload.

Does not own: numbers, and values that nest.
-/

namespace Telemetry

namespace Json

/-! ### Texts -/

/-- The escape of a control character by its code point. -/
theorem readCodePoint_control (character : Char) (control : character.toNat < 0x20)
    (rest : List Char) :
    readCodePoint (['0', '0'] ++ controlDigits character ++ rest) = some (character, rest) := by
  have high := Hexadecimal.value?_lower ⟨character.toNat / 16, by omega⟩
  have low := Hexadecimal.value?_lower ⟨character.toNat % 16, by omega⟩
  have zero : Hexadecimal.value? '0' = some 0 := by decide
  have whole : ((0 * 16 + 0) * 16 + character.toNat / 16) * 16 + character.toNat % 16 =
      character.toNat := by
    omega
  have unit : readUnit (['0', '0'] ++ controlDigits character ++ rest) =
      some (character.toNat, rest) := by
    simp only [controlDigits, List.cons_append, List.nil_append, readUnit, zero, high, low,
      Option.bind_eq_bind, Option.bind_some, whole]
  have notLeading : isLeadingSurrogate character.toNat = false := by
    simp only [isLeadingSurrogate, Bool.and_eq_false_imp, decide_eq_true_eq]
    omega
  have notTrailing : isTrailingSurrogate character.toNat = false := by
    simp only [isTrailingSurrogate, Bool.and_eq_false_imp, decide_eq_true_eq]
    omega
  simp only [readCodePoint, unit, Option.bind_eq_bind, Option.bind_some, notLeading,
    notTrailing, Bool.false_eq_true, if_false, Char.ofNat_toNat]

/-- One written character is read as itself. -/
theorem readCharacters_escaped (turn : Char) (bound : List Char) (character : Char)
    (rest : List Char) :
    readCharacters (turn :: bound) (escaped character ++ rest) =
      (readCharacters bound rest).map fun read => (character :: read.1, read.2) := by
  have escapes : ∀ mark after, readEscape (mark :: after) = some (character, rest) →
      readCharacters (turn :: bound) ('\\' :: mark :: after) =
        (readCharacters bound rest).map fun read => (character :: read.1, read.2) := by
    intro mark after read
    rw [readCharacters, if_neg (by decide), if_pos rfl, read]
    simp only [Option.bind_eq_bind, Option.bind_some]
    cases readCharacters bound rest <;> rfl
  unfold escaped
  split
  · exact escapes '"' rest rfl
  · exact escapes '\\' rest rfl
  · exact escapes 'b' rest rfl
  · exact escapes 't' rest rfl
  · exact escapes 'n' rest rfl
  · exact escapes 'f' rest rfl
  · exact escapes 'r' rest rfl
  · next quote backslash _ _ _ _ _ =>
    split
    · next control =>
      exact escapes 'u' _ (readCodePoint_control character control rest)
    · next plain =>
      rw [List.singleton_append, readCharacters, if_neg quote, if_neg backslash, if_neg plain]
      cases readCharacters bound rest <;> rfl

theorem readCharacters_written
    (text : List Char)
    (rest : List Char)
    (bound : List Char)
    (fits : text.length < bound.length) :
    readCharacters bound (text.flatMap escaped ++ '"' :: rest) = some (text, rest) := by
  induction text generalizing bound with
  | nil =>
      obtain ⟨turn, less, rfl⟩ := List.exists_cons_of_length_pos fits
      rw [List.flatMap_nil, List.nil_append, readCharacters, if_pos rfl]
  | cons character others inductionHypothesis =>
      obtain ⟨turn, less, rfl⟩ := List.exists_cons_of_length_pos (Nat.zero_lt_of_lt fits)
      have othersFit : others.length < less.length := by simpa using fits
      rw [List.flatMap_cons, List.append_assoc, readCharacters_escaped,
        inductionHypothesis less othersFit]
      rfl

theorem escaped_ne_nil (character : Char) : escaped character ≠ [] := by
  unfold escaped
  split <;> try simp
  split <;> simp

/-- A text is read after its opening quote, up to the closing one. -/
theorem readText_written (text : String) (rest : List Char) :
    readText (text.toList.flatMap escaped ++ '"' :: rest) = some (text, rest) := by
  have longer : ∀ characters : List Char,
      characters.length ≤ (characters.flatMap escaped).length := by
    intro characters
    induction characters with
    | nil => exact Nat.le_refl 0
    | cons character others inductionHypothesis =>
        have positive := List.length_pos_iff.mpr (escaped_ne_nil character)
        rw [List.flatMap_cons, List.length_append, List.length_cons]
        omega
  have fits : text.toList.length < (text.toList.flatMap escaped ++ '"' :: rest).length := by
    have atLeast := longer text.toList
    rw [List.length_append, List.length_cons]
    omega
  rw [readText, readCharacters_written _ _ _ fits]
  simp only [Option.bind_eq_bind, Option.bind_some, String.ofList_toList]

/-! ### Parts between two marks -/

/-- A reader takes a part as a value if a comma or the closing mark follows it. -/
structure TakesPart {α : Type} (item : Reader α) (close : Char) (part : List Char) (value : α) :
    Prop where
  reads : ∀ mark rest, mark = ',' ∨ mark = close →
    item (part ++ mark :: rest) = some (value, mark :: rest)
  starts : ∃ first others, part = first :: others ∧ isSpace first = false ∧ first ≠ close

variable {α : Type} {item : Reader α} {close : Char}

theorem TakesPart.skipSpace {part : List Char} {value : α}
    (takes : TakesPart item close part value) (rest : List Char) :
    skipSpace (part ++ rest) = part ++ rest := by
  obtain ⟨first, others, rfl, notSpace, _⟩ := takes.starts
  rw [Json.skipSpace, List.cons_append, List.dropWhile_cons_of_neg (by simp [notSpace])]

theorem skipSpace_mark {mark : Char} (notSpace : isSpace mark = false) (rest : List Char) :
    skipSpace (mark :: rest) = mark :: rest := by
  rw [skipSpace, List.dropWhile_cons_of_neg (by simp [notSpace])]

/-- Parts are read one after the other; each turn takes a part with the mark after it. -/
theorem readSeparated_written
    (closes : isSpace close = false ∧ close ≠ ',')
    {parts : List (List Char)}
    {values : List α}
    (takes : List.Forall₂ (TakesPart item close) parts values)
    (nonempty : parts ≠ [])
    (bound : List Char)
    (fits : parts.length ≤ bound.length)
    (rest : List Char) :
    readSeparated item close bound (List.intercalate [','] parts ++ close :: rest) =
      some (values, rest) := by
  induction takes generalizing bound with
  | nil => exact absurd rfl nonempty
  | @cons part value parts values partTakes others inductionHypothesis =>
      obtain ⟨turn, less, rfl⟩ := List.exists_cons_of_length_pos (Nat.zero_lt_of_lt fits)
      cases others with
      | nil =>
          simp only [List.intercalate_singleton, readSeparated, partTakes.skipSpace,
            partTakes.reads close rest (.inr rfl), Option.bind_eq_bind, Option.bind_some,
            skipSpace_mark closes.1, if_true]
      | @cons next nextValue parts values nextTakes others =>
          have othersFit : (next :: parts).length ≤ less.length := by simpa using fits
          have othersRead := inductionHypothesis (by simp) less othersFit
          simp only [List.intercalate_cons_cons, List.append_assoc, List.cons_append,
            List.nil_append, readSeparated, partTakes.skipSpace,
            partTakes.reads ',' _ (.inl rfl), Option.bind_eq_bind, Option.bind_some,
            skipSpace_mark (show isSpace ',' = false by decide), closes.2.symm, if_false,
            if_true, othersRead]

/-- No more parts than characters are read. -/
theorem parts_length_le
    {parts : List (List Char)}
    {values : List α}
    (takes : List.Forall₂ (TakesPart item close) parts values) :
    parts.length ≤ (List.intercalate [','] parts).length := by
  induction takes with
  | nil => exact Nat.le_refl 0
  | @cons part value parts values partTakes others inductionHypothesis =>
      obtain ⟨first, rest, rfl, _, _⟩ := partTakes.starts
      cases others with
      | nil => simp
      | cons nextTakes others =>
          simp only [List.intercalate_cons_cons, List.length_append, List.length_cons] at *
          omega

/-- Parts between two marks are read after the opening mark. -/
theorem readEnclosed_written
    (closes : isSpace close = false ∧ close ≠ ',')
    {parts : List (List Char)}
    {values : List α}
    (takes : List.Forall₂ (TakesPart item close) parts values)
    (rest : List Char) :
    readEnclosed item close (List.intercalate [','] parts ++ close :: rest) =
      some (values, rest) := by
  have bound := parts_length_le takes
  cases takes with
  | nil =>
      simp only [List.intercalate_nil, List.nil_append, readEnclosed, skipSpace_mark closes.1,
        if_true]
  | @cons part value parts values partTakes others =>
      have separated := readSeparated_written closes (.cons partTakes others) (by simp)
        (List.intercalate [','] (part :: parts) ++ close :: rest)
        (by rw [List.length_append]; omega) rest
      obtain ⟨first, characters, rfl, notSpace, notClose⟩ := partTakes.starts
      obtain ⟨more, opened⟩ : ∃ more,
          List.intercalate [','] ((first :: characters) :: parts) ++ close :: rest =
            first :: more := by
        cases parts with
        | nil => exact ⟨_, rfl⟩
        | cons next parts => exact ⟨_, by rw [List.intercalate_cons_cons]; rfl⟩
      rw [opened] at separated ⊢
      rw [readEnclosed, skipSpace_mark notSpace]
      simp only [notClose, if_false]
      exact separated

end Json

/-! ### Payloads -/

namespace Payload

/-- The written form of one entry. -/
def writtenEntry (entry : String × String) : List Char :=
  Json.renderMember entry.1 (Json.renderString entry.2)

theorem takesPart_writtenEntry (entry : String × String) :
    Json.TakesPart (Json.readMember readValue) '\x7d' (writtenEntry entry) entry := by
  constructor
  · intro mark rest _
    have keyRead := Json.readText_written entry.1
      (':' :: '"' :: (entry.2.toList.flatMap Json.escaped ++ '"' :: mark :: rest))
    have valueRead := Json.readText_written entry.2 (mark :: rest)
    simp only [writtenEntry, Json.renderMember, Json.renderString, List.append_assoc,
      List.cons_append, List.nil_append, Json.readMember, keyRead, Option.bind_eq_bind,
      Option.bind_some, Json.skipSpace_mark (show Json.isSpace ':' = false by decide),
      Json.skipSpace_mark (show Json.isSpace '"' = false by decide), readValue, valueRead]
  · exact ⟨'"', _, rfl, by decide, by decide⟩

theorem render_toJson (payload : Payload) :
    payload.toJson.render =
      Json.enclosed '\x7b' '\x7d' (payload.entries.map writtenEntry) := by
  have members : ∀ entries : List (String × String),
      Json.renderMembers (entries.map fun entry => (entry.1, Json.string entry.2)) =
        entries.map writtenEntry := by
    intro entries
    induction entries with
    | nil => rfl
    | cons entry rest inductionHypothesis =>
        rw [List.map_cons, Json.renderMembers, inductionHypothesis, Json.render]
        rfl
  rw [toJson, Json.render, members]

/-- Written pairs are read as they are, in any order of the keys and with equal keys. -/
theorem readAll?_written (pairs : List (String × String)) :
    Json.readAll? readPairs
        (String.ofList (Json.enclosed '\x7b' '\x7d' (pairs.map writtenEntry))) =
      some pairs := by
  have takes : List.Forall₂ (Json.TakesPart (Json.readMember readValue) '\x7d')
      (pairs.map writtenEntry) pairs := by
    rw [List.forall₂_map_left_iff, List.forall₂_same]
    exact fun entry _ => takesPart_writtenEntry entry
  have read := Json.readEnclosed_written ⟨by decide, by decide⟩ takes []
  rw [Json.readAll?, String.toList_ofList, Json.enclosed, List.append_assoc,
    List.singleton_append, Json.skipSpace_mark (show Json.isSpace '\x7b' = false by decide)]
  simp only [readPairs, read]
  rfl

/-- The text of a payload is read as the payload. -/
theorem parse?_text (payload : Payload) : parse? payload.text = some payload := by
  rw [parse?, text, Json.text, render_toJson, readAll?_written, Option.map_some]
  exact congrArg some (eq_of_entries (Entries.ofPairs_of_ordered payload.ordered))

end Payload

end Telemetry

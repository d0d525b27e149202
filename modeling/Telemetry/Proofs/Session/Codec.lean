import Telemetry.Proofs.Json.Values
import Telemetry.Proofs.Session.Partition

/-!
Contract: the JSON form of a session record keeps the record.

Owns:
- the records whose numbers fit the fields of the stored form, and that every record that is
  read, fresh, moved from the legacy layout or advanced is one;
- that such a record is read back from its JSON form, and from the text of it.

Does not own: where records are kept.
-/

namespace Telemetry

namespace SessionRecord

/-- The instants that a stored record can name. -/
def IsInstant (instant : Int) : Prop :=
  Json.leastSigned ≤ instant ∧ instant ≤ Json.greatestSigned

/-- The counters are counts of 32 bits, and the instant is one. -/
structure InRange (record : SessionRecord) : Prop where
  sessionIndex : record.sessionIndex ≤ Time.greatestCount
  eventIndex : record.eventIndex ≤ Time.greatestCount
  foregroundIndex : record.foregroundIndex ≤ Time.greatestCount
  backgroundIndex : record.backgroundIndex ≤ Time.greatestCount
  firstEventTimestamp : ∀ instant ∈ record.firstEventTimestamp, IsInstant instant

/-! ### Fields -/

theorem readCount?_integer {count : Nat} (small : count ≤ Time.greatestCount) :
    readCount? (.integer count) = some count := by
  have bound : count ≤ 0xFFFFFFFF := small
  have hasWord : (0 : Int) ≤ count ∧ (count : Int) ≤ Json.greatestUnsigned := by
    simp only [Json.greatestUnsigned]
    omega
  simp only [readCount?, Json.asUnsigned?, if_pos hasWord, Int.toNat_natCast, Option.filter_some,
    decide_eq_true bound, if_true]

theorem le_of_readCount? {value : Json} {count : Nat} (read : readCount? value = some count) :
    count ≤ Time.greatestCount := by
  rw [readCount?, Option.filter_eq_some_iff] at read
  exact of_decide_eq_true read.2

theorem le_of_readOr? {field : Option Json} {count : Nat}
    (read : readOr? 0 readCount? field = some count) : count ≤ Time.greatestCount := by
  cases field with
  | none =>
      cases read
      exact Nat.zero_le _
  | some value => exact le_of_readCount? read

theorem readOption?_optionalText (text : Option String) :
    readOption? Json.asString? (some (optionalText text)) = some text := by
  cases text <;> rfl

theorem readOption?_optionalInteger {instant : Option Int}
    (areInstants : ∀ value ∈ instant, IsInstant value) :
    readOption? Json.asSigned? (some (optionalInteger instant)) = some instant := by
  cases instant with
  | none => rfl
  | some value =>
      have isInstant : Json.leastSigned ≤ value ∧ value ≤ Json.greatestSigned :=
        areInstants value rfl
      simp only [optionalInteger, readOption?, Json.asSigned?, if_pos isInstant, Option.map_some]

theorem isInstant_of_readOption? {field : Option Json} {instant : Option Int}
    (read : readOption? Json.asSigned? field = some instant) :
    ∀ value ∈ instant, IsInstant value := by
  intro value member
  cases member
  unfold readOption? at read
  split at read
  · cases read
  · cases read
  · obtain ⟨signed, isSigned, same⟩ := Option.map_eq_some_iff.mp read
    cases same
    unfold Json.asSigned? at isSigned
    split at isSigned
    · split at isSigned
      · next inRange =>
        cases isSigned
        exact inRange
      · cases isSigned
    · cases isSigned

/-! ### Records -/

/-- Fields make up a record if each is read as the record has it. -/
structure Describe (fields : Fields) (record : SessionRecord) : Prop where
  userId : (fields.get? "user_id").bind Json.asString? = some record.userId
  sessionId : readOr? "" Json.asString? (fields.get? "session_id") = some record.sessionId
  previousSessionId : readOption? Json.asString? (fields.get? "previous_session_id") =
    some record.previousSessionId
  sessionIndex : readOr? 0 readCount? (fields.get? "session_index") = some record.sessionIndex
  firstEventId : readOption? Json.asString? (fields.get? "first_event_id") =
    some record.firstEventId
  firstEventTimestamp : readOption? Json.asSigned? (fields.get? "first_event_timestamp_ms") =
    some record.firstEventTimestamp
  eventIndex : readOr? 0 readCount? (fields.get? "event_index") = some record.eventIndex
  foregroundIndex : readOr? 0 readCount? (fields.get? "foreground_index") =
    some record.foregroundIndex
  backgroundIndex : readOr? 0 readCount? (fields.get? "background_index") =
    some record.backgroundIndex

theorem Describe.ofFields? {fields : Fields} {record : SessionRecord}
    (describe : Describe fields record) : ofFields? fields = some record := by
  simp only [SessionRecord.ofFields?, describe.userId, describe.sessionId,
    describe.previousSessionId, describe.sessionIndex, describe.firstEventId,
    describe.firstEventTimestamp, describe.eventIndex, describe.foregroundIndex,
    describe.backgroundIndex, Option.bind_eq_bind, Option.bind_some]

/-- A record is read back from its JSON form. -/
theorem ofJson?_toJson {record : SessionRecord} (inRange : record.InRange) :
    ofJson? record.toJson = some record :=
  Describe.ofFields?
    { userId := rfl
      sessionId := rfl
      previousSessionId := readOption?_optionalText _
      sessionIndex := readCount?_integer inRange.sessionIndex
      firstEventId := readOption?_optionalText _
      firstEventTimestamp := readOption?_optionalInteger inRange.firstEventTimestamp
      eventIndex := readCount?_integer inRange.eventIndex
      foregroundIndex := readCount?_integer inRange.foregroundIndex
      backgroundIndex := readCount?_integer inRange.backgroundIndex }

theorem hasWord_count {count : Nat} (small : count ≤ Time.greatestCount) :
    Json.HasWord (count : Int) := by
  simp only [Json.HasWord, Json.leastSigned, Json.greatestUnsigned]
  simp only [Time.greatestCount] at small
  omega

theorem legible_optionalText {depth : Nat} (text : Option String) :
    Json.Legible depth (optionalText text) := by
  cases text with
  | none => exact .null
  | some text => exact .string text

theorem legible_optionalInteger {depth : Nat} {instant : Option Int}
    (areInstants : ∀ value ∈ instant, IsInstant value) :
    Json.Legible depth (optionalInteger instant) := by
  cases instant with
  | none => exact .null
  | some value =>
      obtain ⟨low, high⟩ := areInstants value rfl
      exact .integer ⟨low, Int.le_trans high (by decide)⟩

/-- The text of a record is read back. -/
theorem legible_toJson {record : SessionRecord} (inRange : record.InRange) :
    Json.Legible Json.nestingLimit record.toJson := by
  refine .object (Entries.ordered_of_keys ["background_index", "event_index", "first_event_id",
    "first_event_timestamp_ms", "foreground_index", "previous_session_id", "session_id",
    "session_index", "user_id"] rfl (by decide)) ?_
  simp only [List.forall_mem_cons, List.not_mem_nil, false_implies, implies_true, and_true]
  exact ⟨.integer (hasWord_count inRange.backgroundIndex),
    .integer (hasWord_count inRange.eventIndex), legible_optionalText _,
    legible_optionalInteger inRange.firstEventTimestamp,
    .integer (hasWord_count inRange.foregroundIndex), legible_optionalText _, .string _,
    .integer (hasWord_count inRange.sessionIndex), .string _⟩

theorem inRange_of_ofFields? {fields : List (String × Json)} {record : SessionRecord}
    (read : ofFields? fields = some record) : record.InRange := by
  simp only [ofFields?, Option.bind_eq_bind, Option.bind_eq_some_iff, Option.some.injEq] at read
  obtain ⟨_, _, _, _, _, _, _, sessionIndex, _, _, _, timestamp, _, eventIndex, _, foreground,
    _, background, rfl⟩ := read
  exact ⟨le_of_readOr? sessionIndex, le_of_readOr? eventIndex, le_of_readOr? foreground,
    le_of_readOr? background, isInstant_of_readOption? timestamp⟩

/-- What is read as a record is in range. -/
theorem inRange_of_ofJson? {value : Json} {record : SessionRecord}
    (read : ofJson? value = some record) : record.InRange := by
  unfold ofJson? at read
  split at read
  · exact inRange_of_ofFields? read
  · split at read
    · exact inRange_of_ofFields? read
    · cases read
  · cases read

theorem inRange_fresh (user : Uuid) : (fresh user).InRange :=
  ⟨Nat.zero_le _, Nat.zero_le _, Nat.zero_le _, Nat.zero_le _, fun _ member => nomatch member⟩

theorem inRange_of_ofLegacy? {user firstEvent : Uuid} {value : Json} {record : SessionRecord}
    (moved : ofLegacy? user firstEvent value = some record) : record.InRange := by
  simp only [ofLegacy?, Option.bind_eq_bind, Option.bind_eq_some_iff, Option.some.injEq] at moved
  obtain ⟨_, _, rfl⟩ := moved
  refine ⟨?_, Nat.zero_le _, Nat.zero_le _, Nat.zero_le _, fun _ member => nomatch member⟩
  cases index : (value.field? "sessionIndex").bind readCount? with
  | none => exact Nat.zero_le _
  | some count =>
      obtain ⟨_, _, read⟩ := Option.bind_eq_some_iff.mp index
      exact le_of_readCount? read

end SessionRecord

/-! ### Sessions -/

/-- The instants of a history can be stored. -/
def SessionHistory.InRange (history : SessionHistory) : Prop :=
  ∀ move ∈ history, ∀ instant ∈ move.instant?, SessionRecord.IsInstant instant

namespace Session

theorem nextCount_le (count : Nat) : Time.nextCount count ≤ Time.greatestCount :=
  Nat.min_le_right _ _

theorem inRange_counted {record : SessionRecord} (inRange : record.InRange)
    (signal : Option LifecycleSignal) : (counted record signal).InRange := by
  rcases signal with _ | signal
  · exact inRange
  · cases signal with
    | foreground => exact { inRange with foregroundIndex := nextCount_le _ }
    | background => exact { inRange with backgroundIndex := nextCount_le _ }

theorem inRange_renewed {record : SessionRecord} (inRange : record.InRange) {instant : Int}
    (isInstant : SessionRecord.IsInstant instant) (sessionId event : Uuid) :
    (renewed record sessionId event instant).InRange := by
  unfold renewed
  constructor
  case sessionIndex => exact nextCount_le record.sessionIndex
  case eventIndex => exact (by decide : 1 ≤ Time.greatestCount)
  case foregroundIndex => exact inRange.foregroundIndex
  case backgroundIndex => exact inRange.backgroundIndex
  case firstEventTimestamp =>
    rintro _ ⟨⟩
    exact isInstant

theorem inRange_advanced {session : Session} (inRange : session.record.InRange) {instant : Int}
    (isInstant : SessionRecord.IsInstant instant) (sessionId event : Uuid)
    (signal : Option LifecycleSignal) :
    (session.advanced sessionId event instant signal).record.InRange := by
  refine inRange_counted ?_ signal
  split
  · exact inRange_renewed inRange isInstant sessionId event
  · exact { inRange with eventIndex := nextCount_le session.record.eventIndex }

theorem userId_counted (record : SessionRecord) (signal : Option LifecycleSignal) :
    (counted record signal).userId = record.userId := by
  rcases signal with _ | signal
  · rfl
  · cases signal <;> rfl

theorem sessionIndex_counted (record : SessionRecord) (signal : Option LifecycleSignal) :
    (counted record signal).sessionIndex = record.sessionIndex := by
  rcases signal with _ | signal
  · rfl
  · cases signal <;> rfl

variable (session : Session) (sessionId event : Uuid) (instant : Int)
  (signal : Option LifecycleSignal)

theorem userId_advanced :
    (session.advanced sessionId event instant signal).record.userId = session.record.userId := by
  simp only [advanced, userId_counted]
  split
  · simp only [renewed]
  · rfl

/-- A counter that is in range does not go back. -/
theorem sessionIndex_le_advanced (inRange : session.record.InRange) :
    session.record.sessionIndex ≤
      (session.advanced sessionId event instant signal).record.sessionIndex := by
  simp only [advanced, sessionIndex_counted]
  split
  · exact Nat.le_min.mpr ⟨Nat.le_succ _, inRange.sessionIndex⟩
  · exact Nat.le_refl _

end Session

end Telemetry

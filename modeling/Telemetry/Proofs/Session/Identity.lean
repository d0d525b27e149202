import Telemetry.Proofs.Session.Launch

/-!
Contract: which outages of the settings store lose the user of a scope.

Owns:
- the identity that a store holds for a scope, in its record or in the legacy record;
- the launches that cannot see the identity, and those of them that write over it;
- a series of writes with outages: what it leaves if all are refused, and if one is accepted;
- that the identity can be recovered exactly if no launch wrote over it.

Does not own: runs without outages.
-/

namespace Telemetry

/-! ### Identities -/

namespace SettingsBackend

/-- The record of a scope has a user, and its sessions have reached an index. -/
def KeepsIdentity (backend : SettingsBackend) (scope userId : String) (index : Nat) : Prop :=
  ∃ record, backend.Keeps scope record ∧ record.userId = userId ∧ index ≤ record.sessionIndex

/-- A scope has no record, and the legacy record has a user and an index. An index that no
counter can hold counts as zero. -/
def LegacyIdentity (backend : SettingsBackend) (scope userId : String) (index : Nat) : Prop :=
  backend.get (SessionRecord.settingsKey scope) = .ok none ∧
    ∃ value sessionId, backend.get (.legacy SessionRecord.settingsName) = .ok (some value) ∧
      value.field? "sessionId" = some (.string sessionId) ∧
      value.field? "userId" = some (.string userId) ∧
      index ≤ ((value.field? "sessionIndex").bind SessionRecord.readCount?).getD 0

/-- The identity of a scope: that of its record, or of the legacy record if there is none. -/
def HoldsIdentity (backend : SettingsBackend) (scope userId : String) (index : Nat) : Prop :=
  backend.KeepsIdentity scope userId index ∨ backend.LegacyIdentity scope userId index

variable {backend : SettingsBackend} {scope userId : String} {index : Nat}

theorem KeepsIdentity.works (keeps : backend.KeepsIdentity scope userId index) :
    backend.Works := by
  obtain ⟨_, kept, _⟩ := keeps
  exact kept.works

end SettingsBackend

/-! ### Launches that write over an identity -/

/-- A load that starts now sees no record: reading is refused, or there is no record of the
scope and the move of a legacy record is refused. -/
def SettingsStore.LoadsBlind (store : SettingsStore) (scope : String) : Prop :=
  store.refuses .get (store.calls + 1) = true ∨
    store.refuses .migrate store.calls = true ∧
      store.backend.get (SessionRecord.settingsKey scope) = .ok none

/-- The number of events of a history. -/
def SessionHistory.events (history : SessionHistory) : Nat :=
  (history.filterMap SessionMove.instant?).length

/-- A lifetime loads blind, and one of its writes is accepted: the one of the fresh record, or
one of those of its events. -/
def Lifetime.Overwrites (life : Lifetime) (scope : String) (store : SettingsStore) : Prop :=
  store.LoadsBlind scope ∧
    ∃ write < 1 + life.history.events, store.refuses .set (store.calls + 2 + write) = false

/-- Some lifetime of a run overwrites. -/
def Overwritten (scope : String) (resources : Resources) : List Lifetime → Prop
  | [] => False
  | life :: lives =>
    life.Overwrites scope resources.settings ∨
      Overwritten scope (life.run scope resources).2 lives

/-- The store once its outages are over. -/
def Resources.recovered (resources : Resources) : Resources :=
  { resources with settings := { resources.settings with refuses := fun _ _ => false } }

theorem SessionHistory.events_concat (history : SessionHistory) (move : SessionMove) :
    events (history ++ [move]) = events history + move.instant?.toList.length := by
  rw [events, List.filterMap_append, List.length_append, events]
  cases move <;> rfl

namespace Session

variable {scope userId : String} {index count : Nat} {before resources : Resources}
  {session : Session}

/-! ### Series of writes -/

/-- A session with a user, whose index is not below `index`. -/
structure Bears (scope userId : String) (index : Nat) (session : Session) : Prop where
  inScope : session.scope = scope
  ofUser : session.record.userId = userId
  notBelow : index ≤ session.record.sessionIndex
  inRange : session.record.InRange

/-- From `before` on, the only calls were `count` writes of records with a user and an index that
is not below `index`. -/
structure Writes (scope userId : String) (index : Nat) (before : Resources) (count : Nat)
    (after : Resources) : Prop where
  stream : after.uuids.stream = before.uuids.stream
  refuses : after.settings.refuses = before.settings.refuses
  calls : after.settings.calls = before.settings.calls + count
  refused : (∀ write < count,
      before.settings.refuses .set (before.settings.calls + write) = true) →
    after.settings.backend = before.settings.backend
  accepted : (∃ write < count,
      before.settings.refuses .set (before.settings.calls + write) = false) →
    after.settings.backend.KeepsIdentity scope userId index

theorem Writes.none (scope userId : String) (index : Nat) (before : Resources) :
    Writes scope userId index before 0 before where
  stream := rfl
  refuses := rfl
  calls := rfl
  refused := fun _ => rfl
  accepted := by
    rintro ⟨write, impossible, _⟩
    exact absurd impossible (Nat.not_lt_zero _)

/-- All writes are refused, or one is accepted. -/
theorem Writes.cases (writes : Writes scope userId index before count resources) :
    resources.settings.backend = before.settings.backend ∨
      resources.settings.backend.KeepsIdentity scope userId index := by
  by_cases all : ∀ write < count,
      before.settings.refuses .set (before.settings.calls + write) = true
  · exact .inl (writes.refused all)
  · push Not at all
    obtain ⟨write, below, notRefused⟩ := all
    exact .inr (writes.accepted ⟨write, below, Bool.eq_false_iff.mpr notRefused⟩)

theorem Writes.works (writes : Writes scope userId index before count resources)
    (works : before.settings.backend.Works) : resources.settings.backend.Works := by
  rcases writes.cases with same | keeps
  · rw [same]
    exact works
  · exact keeps.works

/-- One more write. -/
theorem Writes.persist (writes : Writes scope userId index before count resources)
    (works : before.settings.backend.Works) (bears : session.Bears scope userId index) :
    Writes scope userId index before (count + 1) (session.persist resources) := by
  have call : resources.settings.refuses .set resources.settings.calls =
      before.settings.refuses .set (before.settings.calls + count) := by
    rw [writes.refuses, writes.calls]
  cases outcome : before.settings.refuses .set (before.settings.calls + count) with
  | true =>
      rw [persist_of_refused (call.trans outcome)]
      constructor
      case stream => exact writes.stream
      case refuses => exact writes.refuses
      case calls =>
        show resources.settings.calls + 1 = _
        rw [writes.calls, Nat.add_assoc]
      case refused =>
        intro all
        exact writes.refused fun write below => all write (Nat.lt_succ_of_lt below)
      case accepted =>
        rintro ⟨write, below, accepted⟩
        have isEarlier : write < count := by
          refine Nat.lt_of_le_of_ne (Nat.le_of_lt_succ below) ?_
          rintro rfl
          exact Bool.false_ne_true (accepted.symm.trans outcome)
        exact writes.accepted ⟨write, isEarlier, accepted⟩
  | false =>
      obtain ⟨backend, written, updates⟩ :=
        persist_of_accepted bears.inRange (call.trans outcome) (writes.works works)
      rw [bears.inScope] at updates
      rw [written]
      constructor
      case stream => exact writes.stream
      case refuses => exact writes.refuses
      case calls =>
        show resources.settings.calls + 1 = _
        rw [writes.calls, Nat.add_assoc]
      case refused =>
        intro all
        have refused := all count (Nat.lt_succ_self count)
        exact absurd (outcome.symm.trans refused) Bool.false_ne_true
      case accepted =>
        intro _
        exact ⟨session.record, SettingsBackend.keeps_of_updates bears.inRange updates,
          bears.ofUser, bears.notBelow⟩

/-- The events of a history write records of the session's user. By induction on the history,
latest move last. -/
theorem Writes.after (writes : Writes scope userId index before count resources)
    (works : before.settings.backend.Works) (bears : session.Bears scope userId index)
    {history : SessionHistory} (instants : history.InRange) :
    (session.after resources history).1.Bears scope userId index ∧
      Writes scope userId index before (count + history.events)
        (session.after resources history).2 := by
  induction history using List.reverseRecOn with
  | nil => exact ⟨bears, writes⟩
  | append_singleton earlier move inductionHypothesis =>
      have earlierInRange : SessionHistory.InRange earlier :=
        fun other member => instants other (List.mem_append_left _ member)
      obtain ⟨bearsEarlier, written⟩ := inductionHypothesis earlierInRange
      rw [after_concat, SessionHistory.events_concat]
      cases move with
      | update event instant signal =>
          let last := session.after resources earlier
          let next := last.1.advanced last.2.draw.1 event instant signal
          have isInstant : SessionRecord.IsInstant instant :=
            instants (.update event instant signal) (by simp) instant rfl
          have bearsNext : next.Bears scope userId index := by
            constructor
            case inScope => exact bearsEarlier.inScope
            case ofUser => exact (userId_advanced ..).trans bearsEarlier.ofUser
            case notBelow =>
              exact Nat.le_trans bearsEarlier.notBelow
                (sessionIndex_le_advanced _ _ _ _ _ bearsEarlier.inRange)
            case inRange => exact inRange_advanced bearsEarlier.inRange isInstant _ event signal
          have drawn : Writes scope userId index before
              (count + SessionHistory.events earlier) last.2.draw.2 :=
            ⟨written.stream, written.refuses, written.calls, written.refused, written.accepted⟩
          have persisted := drawn.persist works bearsNext
          obtain ⟨settings, stream⟩ := update_settings last.1 last.2 event instant signal
          rw [perform, update_session]
          refine ⟨bearsNext, ?_⟩
          constructor
          case stream => exact stream.trans written.stream
          case refuses => rw [settings]; exact persisted.refuses
          case calls => rw [settings]; exact persisted.calls
          case refused => rw [settings]; exact persisted.refused
          case accepted => rw [settings]; exact persisted.accepted
      | startNew =>
          exact ⟨⟨bearsEarlier.inScope, bearsEarlier.ofUser, bearsEarlier.notBelow,
            bearsEarlier.inRange⟩, written⟩
      | setAnonymise on =>
          exact ⟨⟨bearsEarlier.inScope, bearsEarlier.ofUser, bearsEarlier.notBelow,
            bearsEarlier.inRange⟩, written⟩

/-! ### One lifetime -/

/-- A load that is blind makes a fresh record. -/
theorem load_of_blind (config : SessionConfig) (blind : resources.settings.LoadsBlind scope) :
    let session : Session :=
      { scope := scope, config := config, record := .fresh (freshUser resources.uuids) }
    load scope config resources = (session, session.persist (opened scope resources)) := by
  rcases blind with refused | ⟨refused, absent⟩
  · exact load_of_outage config refused
  · have unmoved : (migrated scope resources).backend = resources.settings.backend :=
      migrated_of_outage refused
    rw [← unmoved] at absent
    exact load_of_absent config absent

/-- The writes of a lifetime that loads blind are of a fresh user. -/
theorem run_of_blind {life : Lifetime} (instants : life.history.InRange)
    (blind : resources.settings.LoadsBlind scope)
    (works : (migrated scope resources).backend.Works) :
    Writes scope (freshUser resources.uuids).text 0 (opened scope resources)
      (1 + life.history.events) (life.run scope resources).2 := by
  let fresh : Session :=
    { scope := scope, config := life.config, record := .fresh (freshUser resources.uuids) }
  have bears : fresh.Bears scope (freshUser resources.uuids).text 0 :=
    ⟨rfl, rfl, Nat.zero_le _, SessionRecord.inRange_fresh _⟩
  have first := (Writes.none scope (freshUser resources.uuids).text 0
    (opened scope resources)).persist works bears
  rw [Lifetime.run, load_of_blind life.config blind]
  exact (first.after works bears instants).2

/-- A load that reads the record goes on with its user. -/
theorem run_of_sighted {life : Lifetime} (instants : life.history.InRange)
    (reads : resources.settings.refuses .get (resources.settings.calls + 1) = false)
    (keeps : (migrated scope resources).backend.KeepsIdentity scope userId index) :
    Writes scope userId index (opened scope resources) life.history.events
        (life.run scope resources).2 ∧
      (load scope life.config resources).1.record.userId = userId ∧
      index ≤ (load scope life.config resources).1.record.sessionIndex := by
  obtain ⟨record, kept, ofUser, notBelow⟩ := keeps
  have loaded := load_of_keeps life.config kept reads
  let session : Session := { scope := scope, config := life.config, record := record }
  have bears : session.Bears scope userId index := ⟨rfl, ofUser, notBelow, kept.inRange⟩
  rw [Lifetime.run, loaded]
  refine ⟨?_, ofUser, notBelow⟩
  have written := ((Writes.none scope userId index (opened scope resources)).after kept.works
    bears instants).2
  rwa [Nat.zero_add] at written

/-- The move of a legacy record keeps the identity, if it is not refused. -/
theorem migrated_identity (named : scope ≠ legacyScope)
    (holds : resources.settings.backend.HoldsIdentity scope userId index) :
    (migrated scope resources).backend.KeepsIdentity scope userId index ∨
      resources.settings.refuses .migrate resources.settings.calls = true ∧
        (migrated scope resources).backend.LegacyIdentity scope userId index := by
  rcases holds with ⟨record, kept, ofUser, notBelow⟩ | legacy
  · left
    refine ⟨record, ?_, ofUser, notBelow⟩
    rw [migrated_of_keeps kept]
    exact kept
  · cases refused : resources.settings.refuses .migrate resources.settings.calls with
    | true =>
        right
        rw [migrated_of_outage refused]
        exact ⟨rfl, legacy⟩
    | false =>
        left
        obtain ⟨absent, value, sessionId, found, session, user, notBelow⟩ := legacy
        refine ⟨_, (migrated_of_legacy named refused absent found
          (legacyRecord?_of_session session)).1, ?_, notBelow⟩
        simp only [legacyRecord, user, Option.bind_some, Json.asString?, Option.getD_some]

theorem opened_frame (scope : String) (resources : Resources) :
    (opened scope resources).settings.calls = resources.settings.calls + 2 ∧
      (opened scope resources).settings.refuses = resources.settings.refuses := by
  obtain ⟨calls, refuses⟩ := migrated_frame scope resources
  refine ⟨?_, refuses⟩
  show (migrated scope resources).calls + 1 = _
  rw [calls]

/-- A lifetime that does not load blind goes on with the identity, and has it in memory. -/
theorem sighted_of_holds (named : scope ≠ legacyScope)
    (holds : resources.settings.backend.HoldsIdentity scope userId index)
    (sighted : ¬ resources.settings.LoadsBlind scope) :
    resources.settings.refuses .get (resources.settings.calls + 1) = false ∧
      (migrated scope resources).backend.KeepsIdentity scope userId index := by
  constructor
  · exact Bool.eq_false_iff.mpr fun refused => sighted (.inl refused)
  · rcases migrated_identity named holds with keeps | ⟨refused, absent, _⟩
    · exact keeps
    · rw [migrated_of_outage refused] at absent
      exact absurd (.inr ⟨refused, absent⟩) sighted

/-- Whatever a lifetime does, the stream of identifiers is the same, and the store holds the
identity unless the lifetime overwrites it; then it holds that of an identifier of the stream. -/
theorem run_of_holds (named : scope ≠ legacyScope) {life : Lifetime}
    (instants : life.history.InRange)
    (holds : resources.settings.backend.HoldsIdentity scope userId index) :
    (life.run scope resources).2.uuids.stream = resources.uuids.stream ∧
      (¬ life.Overwrites scope resources.settings →
        (life.run scope resources).2.settings.backend.HoldsIdentity scope userId index) ∧
      (life.Overwrites scope resources.settings → ∃ number,
        (life.run scope resources).2.settings.backend.HoldsIdentity scope
          (resources.uuids.stream number).text 0) := by
  by_cases blind : resources.settings.LoadsBlind scope
  · have works : (migrated scope resources).backend.Works := by
      rcases migrated_identity named holds with keeps | ⟨_, absent, _⟩
      · exact keeps.works
      · exact SettingsBackend.works_of_get absent
    have writes := run_of_blind instants blind works
    have refused := writes.refused
    have accepted := writes.accepted
    rw [(opened_frame scope resources).1, (opened_frame scope resources).2] at refused accepted
    refine ⟨writes.stream, ?_, ?_⟩
    · intro spared
      have unchanged : (life.run scope resources).2.settings.backend =
          (migrated scope resources).backend := by
        apply refused
        intro write below
        by_contra notRefused
        exact spared ⟨blind, write, below, Bool.eq_false_iff.mpr notRefused⟩
      rw [unchanged]
      rcases migrated_identity named holds with keeps | ⟨_, legacy⟩
      · exact .inl keeps
      · exact .inr legacy
    · rintro ⟨_, write, below, isAccepted⟩
      exact ⟨resources.uuids.drawn + 2, .inl (accepted ⟨write, below, isAccepted⟩)⟩
  · obtain ⟨reads, keeps⟩ := sighted_of_holds named holds blind
    have writes := (run_of_sighted instants reads keeps).1
    refine ⟨writes.stream, ?_, fun overwrites => absurd overwrites.1 blind⟩
    intro _
    rcases writes.cases with unchanged | kept
    · rw [unchanged]
      exact .inl keeps
    · exact .inl kept

/-! ### Many lifetimes -/

/-- Once the outages are over, a launch reports the identity that the store holds. -/
theorem load_recovered (named : scope ≠ legacyScope) (config : SessionConfig)
    (holds : resources.settings.backend.HoldsIdentity scope userId index) :
    (load scope config resources.recovered).1.record.userId = userId ∧
      index ≤ (load scope config resources.recovered).1.record.sessionIndex := by
  have sighted : ¬ resources.recovered.settings.LoadsBlind scope := by
    rintro (refused | ⟨refused, _⟩) <;> exact Bool.false_ne_true refused
  have held : resources.recovered.settings.backend.HoldsIdentity scope userId index := holds
  obtain ⟨reads, keeps⟩ := sighted_of_holds named held sighted
  let life : Lifetime := ⟨config, []⟩
  have inRange : life.history.InRange := fun _ member => nomatch member
  exact (run_of_sighted inRange reads keeps).2

theorem afterLives_cons (resources : Resources) (scope : String) (life : Lifetime)
    (lives : List Lifetime) :
    resources.afterLives scope (life :: lives) =
      (life.run scope resources).2.afterLives scope lives := rfl

/-- The identity of an identifier of the stream is followed by such identities only. -/
theorem afterLives_of_stranger (named : scope ≠ legacyScope) {lives : List Lifetime}
    (instants : ∀ life ∈ lives, life.history.InRange) {number : Nat}
    (holds : resources.settings.backend.HoldsIdentity scope
      (resources.uuids.stream number).text 0) :
    ∃ number, (resources.afterLives scope lives).settings.backend.HoldsIdentity scope
      (resources.uuids.stream number).text 0 := by
  induction lives generalizing resources number with
  | nil => exact ⟨number, holds⟩
  | cons life lives inductionHypothesis =>
      obtain ⟨lifeInRange, othersInRange⟩ := List.forall_mem_cons.mp instants
      obtain ⟨stream, spared, overwritten⟩ := run_of_holds named lifeInRange holds
      have next : ∃ number, (life.run scope resources).2.settings.backend.HoldsIdentity scope
          (resources.uuids.stream number).text 0 := by
        by_cases overwrites : life.Overwrites scope resources.settings
        · exact overwritten overwrites
        · exact ⟨number, spared overwrites⟩
      obtain ⟨other, holdsNext⟩ := next
      rw [← stream] at holdsNext ⊢
      exact inductionHypothesis othersInRange holdsNext

/-- By induction on the lifetimes, first one first: until a lifetime overwrites it, the identity
stays. -/
theorem afterLives_of_holds (named : scope ≠ legacyScope) {lives : List Lifetime}
    (instants : ∀ life ∈ lives, life.history.InRange)
    (holds : resources.settings.backend.HoldsIdentity scope userId index) :
    (¬ Overwritten scope resources lives →
      (resources.afterLives scope lives).settings.backend.HoldsIdentity scope userId index) ∧
      (Overwritten scope resources lives → ∃ number,
        (resources.afterLives scope lives).settings.backend.HoldsIdentity scope
          (resources.uuids.stream number).text 0) := by
  induction lives generalizing resources with
  | nil => exact ⟨fun _ => holds, fun impossible => impossible.elim⟩
  | cons life lives inductionHypothesis =>
      obtain ⟨lifeInRange, othersInRange⟩ := List.forall_mem_cons.mp instants
      obtain ⟨stream, spared, overwritten⟩ := run_of_holds named lifeInRange holds
      rw [afterLives_cons]
      by_cases overwrites : life.Overwrites scope resources.settings
      · refine ⟨fun never => absurd (.inl overwrites) never, fun _ => ?_⟩
        obtain ⟨number, stranger⟩ := overwritten overwrites
        rw [← stream] at stranger ⊢
        exact afterLives_of_stranger named othersInRange stranger
      · obtain ⟨stays, goes⟩ := inductionHypothesis othersInRange (spared overwrites)
        constructor
        · intro never
          exact stays fun later => never (.inr later)
        · rintro (now | later)
          · exact absurd now overwrites
          · rw [← stream]
            exact goes later

/-- The identity of a scope can be recovered after any lifetimes with any outages, exactly if
none of them wrote a fresh record while it could not see the identity. -/
theorem identity_recoverable_iff (named : scope ≠ legacyScope)
    (holds : resources.settings.backend.HoldsIdentity scope userId index)
    (fresh : ∀ number, (resources.uuids.stream number).text ≠ userId) {lives : List Lifetime}
    (instants : ∀ life ∈ lives, life.history.InRange) (config : SessionConfig) :
    let later := load scope config (resources.afterLives scope lives).recovered
    (later.1.record.userId = userId ∧ index ≤ later.1.record.sessionIndex) ↔
      ¬ Overwritten scope resources lives := by
  intro later
  obtain ⟨stays, goes⟩ := afterLives_of_holds named instants holds
  constructor
  · rintro ⟨sameUser, _⟩ overwritten
    obtain ⟨number, stranger⟩ := goes overwritten
    have otherUser := (load_recovered named config stranger).1
    exact fresh number (otherUser.symm.trans sameUser)
  · intro never
    exact load_recovered named config (stays never)

/-- A launch and an event all of whose calls are refused leave the identity as it is. -/
theorem refused_launch_spares_identity :
    let stored : SessionRecord := { userId := "user", sessionIndex := 5 }
    let records : Records Json := [(SessionRecord.settingsKey "scope", stored.toJson)]
    let settings : SettingsStore :=
      { backend := .memory ⟨records⟩, refuses := fun _ number => decide (number < 4) }
    let resources : Resources := ⟨settings, .standard, ⟨fun n => ⟨n⟩, 0⟩⟩
    let lives : List Lifetime := [⟨{}, [.update ⟨90⟩ 1000 none]⟩]
    let later := load "scope" {} (resources.afterLives "scope" lives).recovered
    "scope" ≠ legacyScope ∧
      resources.settings.backend.HoldsIdentity "scope" "user" 5 ∧
      (∀ number, (resources.uuids.stream number).text ≠ "user") ∧
      (∀ life ∈ lives, life.history.InRange) ∧
      later.1.record.userId = "user" ∧ 5 ≤ later.1.record.sessionIndex := by
  intro stored records settings resources lives later
  have named : "scope" ≠ legacyScope := by decide
  have holds : resources.settings.backend.HoldsIdentity "scope" "user" 5 :=
    .inl ⟨stored, ⟨stored.toJson, rfl, rfl⟩, rfl, Nat.le_refl _⟩
  have fresh : ∀ number, (resources.uuids.stream number).text ≠ "user" := by
    intro number same
    have hyphen : '-' ∈ (Uuid.text ⟨number⟩).toList := by
      simp [Uuid.text, Uuid.hyphenated]
    rw [show Uuid.text ⟨number⟩ = "user" from same] at hyphen
    exact absurd hyphen (by decide)
  have instants : ∀ life ∈ lives, life.history.InRange := by
    simp [lives, SessionHistory.InRange, SessionMove.instant?, SessionRecord.IsInstant,
      Json.leastSigned, Json.greatestSigned]
  have spared : ¬ Overwritten "scope" resources lives := by
    rintro (⟨_, write, below, accepted⟩ | impossible)
    · have isOfLaunch : 0 + 2 + write < 4 := Nat.add_lt_add_left below 2
      exact absurd isOfLaunch (of_decide_eq_false accepted)
    · exact impossible
  have survives := (identity_recoverable_iff named holds fresh instants {}).mpr spared
  refine ⟨named, holds, fresh, instants, ?_⟩
  dsimp only [later]
  exact survives

/-- Without the proviso the identity can be lost: a launch that cannot read the record writes a
fresh one over it, and the next launch, of which no call is refused, reports the fresh user. -/
theorem refused_read_loses_identity :
    let stored : SessionRecord := { userId := "user", sessionIndex := 5 }
    let records : Records Json := [(SessionRecord.settingsKey "scope", stored.toJson)]
    let settings : SettingsStore :=
      { backend := .memory ⟨records⟩
        refuses := fun call number => decide (call = .get ∧ number < 3) }
    let resources : Resources := ⟨settings, .standard, ⟨fun n => ⟨n⟩, 0⟩⟩
    let later := load "scope" {} (resources.afterLives "scope" [⟨{}, []⟩]).recovered
    "scope" ≠ legacyScope ∧
      resources.settings.backend.HoldsIdentity "scope" "user" 5 ∧
      later.1.record.userId ≠ "user" ∧ later.1.record.sessionIndex = 0 := by
  intro stored records settings resources later
  have holds : resources.settings.backend.HoldsIdentity "scope" "user" 5 :=
    .inl ⟨stored, ⟨stored.toJson, rfl, rfl⟩, rfl, Nat.le_refl _⟩
  refine ⟨by decide, holds, ?_, ?_⟩
  · decide +kernel
  · decide +kernel

end Session

end Telemetry

import Telemetry.Proofs.State.Answers
import Telemetry.Proofs.State.Forcing

/-!
Contract: the values that machines offer are merged into the fields of an event so that what comes
first stays.

Owns:
- what a machine offers, told by the state that the snapshot shows of it;
- which keys are taken when a machine has its turn, and the law of one turn;
- from it, for machines of any number: the value under each key, and whether an offer was refused.

Does not own: the states that snapshots show.

Machines are asked between two readings of the snapshot, and a transition may change the world
that the next machine finds. An offer still depends on nothing but the snapshot, because a state
that was read once is shown from then on.
-/

namespace Telemetry

variable {ω : Type}

/-- The values that a machine offers for an event: none unless it is subscribed to give any. -/
def Machine.offered (machine : Machine ω) (event : ObservedEvent) (state : Option MachineState) :
    Fields :=
  if machine.subscriptions.payloadValues.selects event.identifier then
    (machine.payloadValues event state).getD []
  else
    []

namespace Manager

/-! ### Offers -/

/-- What machines answer in turn is what each of them makes of the state that the snapshot shows
once all were asked. -/
theorem answersInTurn_askValues (event : ObservedEvent) (seen : Snapshot)
    (machines : List (Machine ω)) (manager : Manager ω) (world elsewhere : ω) (fields : Fields)
    {after : Manager ω} {later : ω}
    (asked : Questions (addValuesOf event seen machines manager world fields).2.1
      (addValuesOf event seen machines manager world fields).2.2 after later) :
    answersInTurn (askValues event) seen machines manager world =
      machines.map fun machine =>
        machine.payloadValues event (after.read elsewhere seen machine.identifier).1 := by
  induction machines generalizing manager world fields with
  | nil => rfl
  | cons machine rest inductionHypothesis =>
      let read := manager.read world seen machine.identifier
      have others := questions_addValuesOf event seen rest read.2.1 read.2.2
        (mergeValues ((machine.payloadValues event read.1).getD []) fields).2
      rw [List.map_cons, read_again manager world elsewhere seen machine.identifier
        (others.trans asked), ← inductionHypothesis read.2.1 read.2.2 _ asked]
      rfl

section Turns

variable (event : ObservedEvent) (shown : String → Option MachineState)

/-- All values that machines offer, in order. -/
def offers (machines : List (Machine ω)) : List (String × Json) :=
  machines.flatMap fun machine => machine.offered event (shown machine.identifier)

/-- A key is taken after the turns of some machines: the fields have it, or one of these machines
offers a value under it. -/
def Taken (fields : Fields) (earlier : List (Machine ω)) (key : String) : Prop :=
  fields.contains key = true ∨
    ∃ machine ∈ earlier, (machine.offered event (shown machine.identifier)).contains key = true

instance (fields : Fields) (earlier : List (Machine ω)) (key : String) :
    Decidable (Taken event shown fields earlier key) :=
  inferInstanceAs (Decidable (_ ∨ _))

/-- Machines that are not subscribed offer nothing, so only the others need be asked. -/
theorem offers_eq (machines : List (Machine ω)) :
    ((machines.filter fun machine =>
        machine.subscriptions.payloadValues.selects event.identifier).map fun machine =>
          machine.payloadValues event (shown machine.identifier)).flatMap (fun answer =>
            answer.getD []) = offers event shown machines := by
  induction machines with
  | nil => rfl
  | cons machine rest inductionHypothesis =>
      rw [offers, List.flatMap_cons, ← offers, ← inductionHypothesis, List.filter_cons,
        Machine.offered]
      split <;> rfl

variable {event shown} {fields : Fields} {machine : Machine ω} {machines : List (Machine ω)}
  {key : String} {value : Json}

/-! ### One turn -/

theorem get?_mergeValues_eq_some_iff {values : Fields} :
    Entries.get? (mergeValues values fields).2 key = some value ↔
      fields.get? key = some value ∨
        values.get? key = some value ∧ ¬ fields.contains key = true := by
  rw [get?_mergeValues, Option.or_eq_some_iff, Entries.contains, Option.not_isSome_iff_eq_none]
  exact or_congr_right and_comm

theorem contains_mergeValues (values fields : Fields) (key : String) :
    (mergeValues values fields).2.contains key = (fields.contains key || values.contains key) := by
  rw [Entries.contains, get?_mergeValues, Option.isSome_or]
  rfl

/-- The values of a map are not all merged exactly if one of their keys is taken. -/
theorem mergeValues_eq_false_iff {values : Fields} (ordered : values.Ordered) :
    (mergeValues values fields).1 = false ↔
      ∃ key value, values.get? key = some value ∧ fields.contains key = true := by
  induction values generalizing fields with
  | nil => simp [mergeValues]
  | cons entry rest inductionHypothesis =>
      obtain ⟨first, given⟩ := entry
      obtain ⟨above, restOrdered⟩ := List.pairwise_cons.mp ordered
      rw [mergeValues]
      by_cases isTaken : fields.contains first = true
      · rw [if_pos isTaken]
        exact ⟨fun _ => ⟨first, given, by rw [Entries.get?, if_pos rfl], isTaken⟩, fun _ => rfl⟩
      · rw [if_neg isTaken, inductionHypothesis restOrdered]
        refine exists_congr fun key => exists_congr fun value => ?_
        by_cases same : first = key
        · -- keys of a map differ, so the key that was just added is not offered again
          subst same
          have notLater : Entries.get? rest first ≠ some value := fun isLater =>
            String.lt_irrefl first (above _ ((Entries.mem_iff_get? restOrdered).mpr isLater))
          simp [notLater, isTaken]
        · rw [Entries.get?, if_neg same, Entries.contains, Entries.get?_insert, if_neg same,
            ← Entries.contains]

theorem taken_nil_iff :
    Taken event shown fields ([] : List (Machine ω)) key ↔ fields.contains key = true := by
  simp [Taken]

/-- The keys that are taken after the first turn are those of the merged fields. -/
theorem taken_cons_iff :
    Taken event shown fields (machine :: machines) key ↔
      Taken event shown
        (mergeValues (machine.offered event (shown machine.identifier)) fields).2 machines key := by
  rw [Taken, Taken, contains_mergeValues, Bool.or_eq_true, List.exists_mem_cons_iff, or_assoc]

/-- Something holds of a turn if it holds of the first one, or of one after it. -/
theorem exists_turn_cons_iff {holds : List (Machine ω) → Machine ω → Prop} :
    (∃ earlier other later, machine :: machines = earlier ++ other :: later ∧
        holds earlier other) ↔
      holds [] machine ∨
        ∃ earlier other later, machines = earlier ++ other :: later ∧
          holds (machine :: earlier) other := by
  constructor
  · rintro ⟨earlier, other, later, parts, isSo⟩
    cases earlier with
    | nil =>
        obtain ⟨rfl, rfl⟩ := List.cons.inj parts
        exact .inl isSo
    | cons first earlier =>
        obtain ⟨rfl, rfl⟩ := List.cons.inj parts
        exact .inr ⟨earlier, other, later, rfl, isSo⟩
  · rintro (isSo | ⟨earlier, other, later, rfl, isSo⟩)
    · exact ⟨[], machine, machines, rfl, isSo⟩
    · exact ⟨machine :: earlier, other, later, rfl, isSo⟩

/-! ### All turns -/

theorem get?_mergeOffers_iff (machines : List (Machine ω)) :
    Entries.get? (mergeValues (offers event shown machines) fields).2 key = some value ↔
      fields.get? key = some value ∨
        ∃ earlier machine later, machines = earlier ++ machine :: later ∧
          (machine.offered event (shown machine.identifier)).get? key = some value ∧
          ¬ Taken event shown fields earlier key := by
  induction machines generalizing fields with
  | nil => simp [offers, mergeValues]
  | cons machine rest inductionHypothesis =>
      rw [offers, List.flatMap_cons, mergeValues_append, ← offers, inductionHypothesis,
        get?_mergeValues_eq_some_iff, exists_turn_cons_iff]
      simp only [taken_nil_iff, taken_cons_iff, or_assoc]

theorem mergeOffers_eq_false_iff
    (areMaps : ∀ machine ∈ machines, (machine.offered event (shown machine.identifier)).Ordered) :
    (mergeValues (offers event shown machines) fields).1 = false ↔
      ∃ earlier machine later, machines = earlier ++ machine :: later ∧
        ∃ key value,
          (machine.offered event (shown machine.identifier)).get? key = some value ∧
            Taken event shown fields earlier key := by
  induction machines generalizing fields with
  | nil => simp [offers, mergeValues]
  | cons machine rest inductionHypothesis =>
      obtain ⟨isMap, areRest⟩ := List.forall_mem_cons.mp areMaps
      rw [offers, List.flatMap_cons, mergeValues_append, ← offers, Bool.and_eq_false_iff,
        inductionHypothesis areRest, mergeValues_eq_false_iff isMap, exists_turn_cons_iff]
      simp only [taken_nil_iff, taken_cons_iff]

end Turns

/-- The fields keep what they have. Under each other key they get the value of the first machine,
in the order of registration, that offers one, and they get nothing else. If what machines offer
are maps, the answer is no exactly if, when some machine had its turn, a key of its offer was taken
by the fields or by an offer of a machine before it. -/
theorem first_offers_are_merged (manager : Manager ω) (world : ω) (event : ObservedEvent)
    (seen : Snapshot) (fields : Fields) :
    let merged := manager.addPayloadValues world event seen fields
    let shown := fun identifier => (merged.2.1.read merged.2.2 seen identifier).1
    (∀ key value, merged.1.2.get? key = some value ↔
      fields.get? key = some value ∨
        ∃ earlier machine later, manager.machines = earlier ++ machine :: later ∧
          (machine.offered event (shown machine.identifier)).get? key = some value ∧
          ¬ Taken event shown fields earlier key) ∧
      (fields.Ordered → merged.1.2.Ordered) ∧
      ((∀ machine ∈ manager.machines,
          (machine.offered event (shown machine.identifier)).Ordered) →
        (merged.1.1 = false ↔
          ∃ earlier machine later, manager.machines = earlier ++ machine :: later ∧
            ∃ key value,
              (machine.offered event (shown machine.identifier)).get? key = some value ∧
                Taken event shown fields earlier key)) := by
  intro merged shown
  let asked := manager.concerned Subscriptions.payloadValues event
  have answers : answersInTurn (askValues event) seen asked manager world =
      asked.map fun machine => machine.payloadValues event (shown machine.identifier) :=
    answersInTurn_askValues event seen asked manager world merged.2.2 fields .nothing
  have isMerged : merged.1 = mergeValues (offers event shown manager.machines) fields := by
    rw [← offers_eq, ← concerned, ← answers]
    exact addValuesOf_eq event seen asked manager world fields
  rw [isMerged]
  exact ⟨fun key value => get?_mergeOffers_iff manager.machines,
    fun ordered => ordered_mergeValues ordered _, mergeOffers_eq_false_iff⟩

/-- The first machine offers a count that it gets in a transition, which runs when it is asked. The
second one would offer a label, but is not subscribed. Of the third one's offers the label is
merged and the count is refused. -/
theorem offers_of_three_machines_are_merged :
    let counts : Machine Nat :=
      { identifier := "counts"
        kind := .hosted "counts"
        subscriptions := { transitions := .all, payloadValues := .all }
        transition := fun _ _ world => (some (.hosted "count" (.integer world)), world + 1)
        payloadValues := fun _ state => match state with
          | some (.hosted _ count) => some [("count", count)]
          | _ => none }
    let silent : Machine Nat :=
      { identifier := "silent"
        kind := .hosted "labels"
        payloadValues := fun _ _ => some [("label", .string "silent")] }
    let labels : Machine Nat :=
      { identifier := "labels"
        kind := .hosted "labels"
        subscriptions := { payloadValues := .only ["iglu:a"] }
        payloadValues := fun _ _ => some [("count", .null), ("label", .string "loud")] }
    let event : ObservedEvent := .ofEvent (.ofBody ⟨"iglu:a", [("own", .null)]⟩) ⟨1⟩ 2
    let noted := ([counts, silent, labels].foldl Manager.add {}).snapshot 7 event
    let merged := noted.2.1.addPayloadValues noted.2.2 event noted.1 event.data
    let shown := fun identifier => (merged.2.1.read merged.2.2 noted.1 identifier).1
    (∀ machine ∈ noted.2.1.machines,
        (machine.offered event (shown machine.identifier)).Ordered) ∧
      merged.1.2.get? "own" = some .null ∧
      merged.1.2.get? "count" = some (.integer 7) ∧
      merged.1.2.get? "label" = some (.string "loud") ∧ merged.1.1 = false := by
  intro counts silent labels event noted
  obtain ⟨values, _, refused⟩ :=
    first_offers_are_merged noted.2.1 noted.2.2 event noted.1 event.data
  have registered : noted.2.1.machines = [counts, silent, labels] := rfl
  refine ⟨?areMaps, (values _ _).mpr (.inl rfl), (values _ _).mpr (.inr ?count),
    (values _ _).mpr (.inr ?label), (refused ?areMaps).mpr ?refusal⟩
  case areMaps => decide +kernel
  case count =>
    exact ⟨[], counts, [silent, labels], registered, by decide +kernel, by decide +kernel⟩
  case label =>
    exact ⟨[counts, silent], labels, [], registered, by decide +kernel, by decide +kernel⟩
  case refusal =>
    exact ⟨[counts, silent], labels, [], registered, "count", .null, by decide +kernel,
      by decide +kernel⟩

end Manager

end Telemetry

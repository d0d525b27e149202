import Mathlib.Data.List.Induction
import Mathlib.Data.List.Nodup
import Telemetry.Configuration

/-!
Contract: when the retry rules of a configuration depend on the order in which its decisions
on single statuses are visited.

Owns:
- that entries in order are told by what is under their keys;
- which decision a status has after a visit: that of the last text that means it;
- the texts on which decisions have to agree, so that every order gives the same set-up, and
  so that it gives the same outcomes.

Does not own: the order in which a file lists its decisions, and how a text is read.
-/

namespace Telemetry

/-- Entries in order that hold the same under every key are the same. -/
theorem Entries.eq_of_get?
    {κ α : Type}
    [LT κ] [DecidableEq κ] [Std.Asymm (α := κ) (· < ·)]
    {first second : Entries κ α}
    (firstOrdered : first.Ordered)
    (secondOrdered : second.Ordered)
    (same : ∀ key, first.get? key = second.get? key) :
    first = second := by
  have nodup : ∀ {entries : Entries κ α}, entries.Ordered → entries.Nodup := by
    intro entries ordered
    refine List.Pairwise.imp (fun less isSame => ?_) ordered
    rw [isSame] at less
    exact Std.Asymm.asymm _ _ less less
  have permutation : first.Perm second := by
    refine (List.perm_ext_iff_of_nodup (nodup firstOrdered) (nodup secondOrdered)).mpr ?_
    rintro ⟨key, value⟩
    rw [mem_iff_get? firstOrdered, mem_iff_get? secondOrdered, same]
  exact permutation.eq_of_pairwise
    (fun entry other _ _ less more => absurd more (Std.Asymm.asymm entry.1 other.1 less))
    firstOrdered secondOrdered

/-! ### A visit -/

namespace RetryRules

/-- The decision on a status after a visit of texts. -/
def decided? (visited : List (String × Bool)) (status : Nat) : Option Bool :=
  (ofCodes true visited).overrides.get? status

/-- The last text of a visit decides, if it means the status. -/
theorem decided?_concat (visited : List (String × Bool)) (entry : String × Bool) (status : Nat) :
    decided? (visited ++ [entry]) status =
      if statusOf? entry.1 = some status then some entry.2 else decided? visited status := by
  simp only [decided?, ofCodes, List.foldl_append, List.foldl_cons, List.foldl_nil]
  cases means : statusOf? entry.1 with
  | none => simp
  | some other => simp only [Entries.get?_insert, Option.some.injEq]

theorem ordered_ofCodes (enabled : Bool) (visited : List (String × Bool)) :
    (ofCodes enabled visited).overrides.Ordered := by
  induction visited using List.reverseRecOn with
  | nil => exact Entries.ordered_nil
  | append_singleton visited entry inductionHypothesis =>
      simp only [ofCodes, List.foldl_append, List.foldl_cons, List.foldl_nil]
      cases statusOf? entry.1 with
      | none => exact inductionHypothesis
      | some status => exact Entries.ordered_insert inductionHypothesis status entry.2

/-- A decision is that of a text which means the status. -/
theorem entry_of_decided? {visited : List (String × Bool)} {status : Nat} {retried : Bool}
    (decided : decided? visited status = some retried) :
    ∃ text, (text, retried) ∈ visited ∧ statusOf? text = some status := by
  induction visited using List.reverseRecOn with
  | nil => cases decided
  | append_singleton visited entry inductionHypothesis =>
      rw [decided?_concat] at decided
      split at decided
      · next means =>
        rw [← Option.some.inj decided]
        exact ⟨entry.1, by simp, means⟩
      · obtain ⟨text, member, means⟩ := inductionHypothesis decided
        exact ⟨text, List.mem_append_left _ member, means⟩

theorem isSome_decided? {visited : List (String × Bool)} {status : Nat} {entry : String × Bool}
    (member : entry ∈ visited) (means : statusOf? entry.1 = some status) :
    (decided? visited status).isSome := by
  induction visited using List.reverseRecOn with
  | nil => cases member
  | append_singleton visited last inductionHypothesis =>
      rw [decided?_concat]
      split
      · rfl
      · next meansOther =>
        rcases List.mem_append.mp member with earlier | isLast
        · exact inductionHypothesis earlier
        · exact absurd (List.mem_singleton.mp isLast ▸ means) meansOther

/-- All texts that mean the status decide alike. -/
def Agrees (codes : List (String × Bool)) (status : Nat) : Prop :=
  ∀ first ∈ codes, ∀ second ∈ codes,
    statusOf? first.1 = some status → statusOf? second.1 = some status → first.2 = second.2

section Orders

variable {codes : List (String × Bool)} {status : Nat}

theorem decided?_of_agrees
    {visited : List (String × Bool)}
    (agrees : Agrees codes status)
    (order : visited.Perm codes)
    {entry : String × Bool}
    (member : entry ∈ codes)
    (means : statusOf? entry.1 = some status) :
    decided? visited status = some entry.2 := by
  obtain ⟨retried, decided⟩ := Option.isSome_iff_exists.mp
    (isSome_decided? (order.mem_iff.mpr member) means)
  obtain ⟨text, isEntry, meansToo⟩ := entry_of_decided? decided
  have alike : retried = entry.2 :=
    agrees (text, retried) (order.mem_iff.mp isEntry) entry member meansToo means
  rw [decided, alike]

/-- Any text that means the status can be the last one. -/
theorem exists_order {entry : String × Bool} (member : entry ∈ codes)
    (means : statusOf? entry.1 = some status) :
    ∃ visited, visited.Perm codes ∧ decided? visited status = some entry.2 := by
  obtain ⟨before, after, rfl⟩ := List.append_of_mem member
  refine ⟨before ++ after ++ [entry], ?_, ?_⟩
  · rw [List.append_assoc]
    exact (List.perm_append_singleton entry after).append_left before
  · rw [decided?_concat, if_pos means]

/-- The decision on a status is the same for all orders exactly if the texts agree on it. -/
theorem agrees_iff :
    Agrees codes status ↔
      ∀ first second, first.Perm codes → second.Perm codes →
        decided? first status = decided? second status := by
  constructor
  · intro agrees first second firstOrder secondOrder
    by_cases meant : ∃ entry ∈ codes, statusOf? entry.1 = some status
    · obtain ⟨entry, member, means⟩ := meant
      rw [decided?_of_agrees agrees firstOrder member means,
        decided?_of_agrees agrees secondOrder member means]
    · have undecided : ∀ visited, visited.Perm codes → decided? visited status = none := by
        intro visited order
        refine Option.eq_none_iff_forall_not_mem.mpr fun retried decided => meant ?_
        obtain ⟨text, member, means⟩ := entry_of_decided? decided
        exact ⟨_, order.mem_iff.mp member, means⟩
      rw [undecided first firstOrder, undecided second secondOrder]
  · intro same first inFirst second inSecond firstMeans secondMeans
    obtain ⟨one, oneOrder, oneDecides⟩ := exists_order inFirst firstMeans
    obtain ⟨other, otherOrder, otherDecides⟩ := exists_order inSecond secondMeans
    have decided := same one other oneOrder otherOrder
    rw [oneDecides, otherDecides] at decided
    exact Option.some.inj decided

end Orders

/-! ### Outcomes -/

theorem retries_ofCodes (enabled : Bool) (visited : List (String × Bool)) (status : Nat) :
    (ofCodes enabled visited).retries (some status) =
      (enabled && (decided? visited status).getD !finalStatuses.contains status) := rfl

/-- The outcome of a failure is told by whether its status is retried. -/
theorem disposition_congr {rules others : RetryRules} {result : RequestResult}
    (same : result.isSuccessful = false →
      rules.retries result.status = others.retries result.status) :
    rules.disposition result = others.disposition result := by
  unfold disposition
  cases success : result.isSuccessful with
  | true => rfl
  | false => rw [same success]

theorem isSuccessful_eq_false_iff (status : Nat) (oversize : Bool) (ids : List RowId) :
    RequestResult.isSuccessful ⟨some status, oversize, ids⟩ = false ↔
      status < 200 ∨ 299 < status := by
  simp only [RequestResult.isSuccessful, Bool.and_eq_false_iff, decide_eq_false_iff_not,
    Nat.not_le]

/-- With retrying on, a decision on a status is the outcome of failures with it. -/
theorem disposition_of_decided {visited : List (String × Bool)} {status : Nat} {retried : Bool}
    (failed : status < 200 ∨ 299 < status) (decided : decided? visited status = some retried) :
    (ofCodes true visited).disposition ⟨some status, false, []⟩ =
      if retried then .retained else .dropped := by
  rw [disposition, (isSuccessful_eq_false_iff status false []).mpr failed, retries_ofCodes,
    decided]
  cases retried <;> rfl

/-- The outcomes are the same for all orders exactly if retrying is off or the texts agree on
every status of a failure. -/
theorem outcomes_agree_iff (enabled : Bool) (codes : List (String × Bool)) :
    (∀ first second, first.Perm codes → second.Perm codes → ∀ result,
        (ofCodes enabled first).disposition result =
          (ofCodes enabled second).disposition result) ↔
      (enabled = true → ∀ status, status < 200 ∨ 299 < status → Agrees codes status) := by
  constructor
  · rintro same rfl status failed first inFirst second inSecond firstMeans secondMeans
    obtain ⟨one, oneOrder, oneDecides⟩ := exists_order inFirst firstMeans
    obtain ⟨other, otherOrder, otherDecides⟩ := exists_order inSecond secondMeans
    have outcome := same one other oneOrder otherOrder ⟨some status, false, []⟩
    rw [disposition_of_decided failed oneDecides,
      disposition_of_decided failed otherDecides] at outcome
    cases firstRetries : first.2 <;> cases secondRetries : second.2 <;>
      simp [firstRetries, secondRetries] at outcome ⊢
  · intro agree first second firstOrder secondOrder result
    refine disposition_congr fun failure => ?_
    obtain ⟨_ | status, oversize, ids⟩ := result
    · rfl
    rw [retries_ofCodes, retries_ofCodes]
    cases enabled with
    | false => rfl
    | true =>
        have failed : status < 200 ∨ 299 < status :=
          (isSuccessful_eq_false_iff status oversize ids).mp failure
        rw [agrees_iff.mp (agree rfl status failed) first second firstOrder secondOrder]

end RetryRules

/-! ### A configuration -/

namespace Configuration

open RetryRules

/-- The set-up of the emitter if the decisions on statuses are visited in an order. -/
def deliveryConfigBy (configuration : Configuration) (visited : List (String × Bool)) :
    DeliveryConfig :=
  { configuration.deliveryConfig with retry := .ofCodes configuration.delivery.retry visited }

theorem deliveryConfig_eq (configuration : Configuration) :
    configuration.deliveryConfig =
      configuration.deliveryConfigBy configuration.delivery.retryCodes := rfl

/-- The set-up is that of a visit in the order in which the configuration holds the decisions.
It does not depend on the order exactly if the texts that mean one status decide alike, for
every status. The outcomes do not depend on it exactly if retrying is off or the texts agree on
the statuses of failures. -/
theorem order_ignored_iff (configuration : Configuration) :
    let codes := configuration.delivery.retryCodes
    configuration.deliveryConfig = configuration.deliveryConfigBy codes ∧
      ((∀ first second, first.Perm codes → second.Perm codes →
          configuration.deliveryConfigBy first = configuration.deliveryConfigBy second) ↔
        ∀ status, Agrees codes status) ∧
      ((∀ first second, first.Perm codes → second.Perm codes → ∀ result,
          (configuration.deliveryConfigBy first).retry.disposition result =
            (configuration.deliveryConfigBy second).retry.disposition result) ↔
        (configuration.delivery.retry = true →
          ∀ status, status < 200 ∨ 299 < status → Agrees codes status)) := by
  intro codes
  refine ⟨configuration.deliveryConfig_eq, ⟨?_, ?_⟩,
    outcomes_agree_iff configuration.delivery.retry codes⟩
  · intro same status
    refine agrees_iff.mpr fun first second firstOrder secondOrder => ?_
    exact congrArg (fun config : DeliveryConfig => config.retry.overrides.get? status)
      (same first second firstOrder secondOrder)
  · intro agree first second firstOrder secondOrder
    have overrides : (ofCodes configuration.delivery.retry first).overrides =
        (ofCodes configuration.delivery.retry second).overrides :=
      Entries.eq_of_get? (ordered_ofCodes _ _) (ordered_ofCodes _ _) fun status =>
        agrees_iff.mp (agree status) first second firstOrder secondOrder
    have rules : ofCodes configuration.delivery.retry first =
        ofCodes configuration.delivery.retry second :=
      congrArg (RetryRules.mk configuration.delivery.retry) overrides
    rw [deliveryConfigBy, deliveryConfigBy, rules]

/-- A status is meant twice, once with a blank before it, and the two decisions differ. -/
def withPaddedCode : Configuration :=
  { delivery := { retryCodes := [(" 403", false), ("403", true)] } }

/-- In the order of the texts the status is retried, and in the other one it is not. -/
theorem padded_code_depends_on_order :
    let codes := withPaddedCode.delivery.retryCodes
    let failure : RequestResult := ⟨some 403, false, [1]⟩
    codes.reverse.Perm codes ∧
      withPaddedCode.deliveryConfig.retry.overrides = [(403, true)] ∧
      (withPaddedCode.deliveryConfigBy codes.reverse).retry.overrides = [(403, false)] ∧
      withPaddedCode.deliveryConfig.retry.disposition failure = .retained ∧
      (withPaddedCode.deliveryConfigBy codes.reverse).retry.disposition failure = .dropped := by
  refine ⟨List.reverse_perm _, ?_, ?_, ?_, ?_⟩ <;> decide

end Configuration

end Telemetry

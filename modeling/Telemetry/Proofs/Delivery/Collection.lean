import Telemetry.Proofs.Delivery.Cycle

/-!
Contract: the order in which the sendings of a cycle come off changes nothing.

Owns:
- removing rows and settling a page, which depend on the results without their order;
- what a cycle can come to if its requests reach the transport in any order and their
  results are collected in any order;
- that all of these leave the same, apart from the order of the handed requests.

Does not own: transports whose answer depends on what was handed over before.
-/

namespace Telemetry

/-! ### Rows that are named in any order -/

section Removal

variable {ids others : List RowId}

private theorem contains_ofList_of_perm (permutation : ids.Perm others) (id : RowId) :
    (Std.HashSet.ofList ids).contains id = (Std.HashSet.ofList others).contains id := by
  rw [Std.HashSet.contains_ofList, Std.HashSet.contains_ofList, permutation.contains_eq]

theorem MemoryQueue.remove_of_perm (queue : MemoryQueue) (permutation : ids.Perm others) :
    queue.remove ids = queue.remove others := by
  have sameKept : (queue.stored.filter fun row => !(Std.HashSet.ofList ids).contains row.id) =
      queue.stored.filter fun row => !(Std.HashSet.ofList others).contains row.id := by
    simp only [contains_ofList_of_perm permutation]
  simp only [remove, sameKept]

theorem TableQueue.delete_of_perm (queue : TableQueue) (permutation : ids.Perm others) :
    queue.delete ids = queue.delete others := by
  have sameKept : ∀ stored : Array TableRow,
      (stored.filter fun row => !(Std.HashSet.ofList ids).contains row.id) =
        stored.filter fun row => !(Std.HashSet.ofList others).contains row.id := by
    intro stored
    simp only [contains_ofList_of_perm permutation]
  unfold delete
  simp only [sameKept, permutation.length_eq]

theorem TableQueue.remove_of_perm (queue : TableQueue) (permutation : ids.Perm others) :
    queue.remove ids = queue.remove others := by
  rw [remove, remove, permutation.isEmpty_eq, queue.delete_of_perm permutation]

theorem QueueBackend.remove_of_perm (backend : QueueBackend) (permutation : ids.Perm others) :
    backend.remove ids = backend.remove others := by
  cases backend with
  | memory queue => rw [remove, remove, queue.remove_of_perm permutation]
  | table queue => rw [remove, remove, queue.remove_of_perm permutation]

theorem EventQueue.remove_of_perm (queue : EventQueue) (permutation : ids.Perm others) :
    queue.remove ids = queue.remove others := by
  rw [remove, remove, guarded, guarded, queue.backend.remove_of_perm permutation]

theorem Emitter.removeRows_of_perm (emitter : Emitter) (permutation : ids.Perm others) :
    emitter.removeRows ids = emitter.removeRows others := by
  rw [removeRows, removeRows, permutation.isEmpty_eq, emitter.queue.remove_of_perm permutation]

/-- The reason of a pause tells how many rows there are, and not which. -/
theorem Emitter.removeSettled_of_perm (emitter : Emitter) (permutation : ids.Perm others) :
    emitter.removeSettled ids = emitter.removeSettled others := by
  rw [removeSettled, removeSettled, emitter.removeRows_of_perm permutation,
    permutation.length_eq]

end Removal

/-! ### Results in any order -/

/-- Two results are counted in either order. -/
theorem CycleReport.count_comm (rules : RetryRules) (report : CycleReport)
    (first second : RequestResult) :
    (report.count rules first).count rules second =
      (report.count rules second).count rules first := by
  cases firstEnds : rules.disposition first <;> cases secondEnds : rules.disposition second <;>
    simp only [count, firstEnds, secondEnds, CycleReport.mk.injEq, and_true, true_and] <;> omega

namespace Emitter

section Settling

variable {results others : List RequestResult}

theorem tally_of_perm (rules : RetryRules) (attempted : Nat)
    (permutation : results.Perm others) :
    tally rules attempted results = tally rules attempted others := by
  refine permutation.foldl_eq' (fun first _ second _ report => ?_) _
  exact report.count_comm rules first second

theorem settledIds_of_perm (rules : RetryRules) (permutation : results.Perm others) :
    (settledIds rules results).Perm (settledIds rules others) :=
  permutation.flatMap_right _

/-- Settling a page depends on its results without their order. -/
theorem settle_of_perm (emitter : Emitter) (attempted : Nat) (permutation : results.Perm others) :
    emitter.settle ⟨attempted, results⟩ = emitter.settle ⟨attempted, others⟩ := by
  have sameIds := settledIds_of_perm emitter.config.retry permutation
  rw [settle, settle, tally_of_perm _ _ permutation, emitter.removeSettled_of_perm sameIds]

end Settling

end Emitter

/-! ### Sendings in any order -/

namespace Transport

/-- The answer to a request does not depend on what was handed over before it. -/
def AnswersAlone (transport : Transport) : Prop :=
  ∀ index other request, transport.answer index request = transport.answer other request

/-- The requests whose sending does not break off have their results, whenever they are sent. -/
theorem outcomes_of_answersAlone {transport : Transport} (alone : transport.AnswersAlone)
    (index : Nat) (requests : List Request) :
    transport.outcomes index requests = requests.filterMap (transport.outcome? 0) := by
  induction requests generalizing index with
  | nil => rfl
  | cons request rest inductionHypothesis =>
      have sameOutcome : transport.outcome? index request = transport.outcome? 0 request := by
        rw [outcome?, outcome?, alone index 0 request]
      rw [outcomes, inductionHypothesis, sameOutcome, List.filterMap_cons]
      cases transport.outcome? 0 request <;> rfl

theorem outcomes_of_perm {transport : Transport} (alone : transport.AnswersAlone)
    {requests started : List Request} (permutation : started.Perm requests) (first second : Nat) :
    (transport.outcomes first started).Perm (transport.outcomes second requests) := by
  rw [outcomes_of_answersAlone alone, outcomes_of_answersAlone alone]
  exact permutation.filterMap _

end Transport

namespace Emitter

/-- What a cycle can come to. Its requests reach the transport in any order, and the results of
those whose sending does not break off are collected in any order. -/
inductive CycleComesTo (transport : Transport) (now : Int) (arrivals : Arrivals)
    (emitter : Emitter) : Option CycleReport → Emitter → Prop where
  | unread {reading : Emitter} (read : emitter.readPage now = (none, reading)) :
      CycleComesTo transport now arrivals emitter none
        ((reading.accept arrivals.afterReading).accept arrivals.afterSending)
  | noPage {reading : Emitter} (read : emitter.readPage now = (some [], reading)) :
      CycleComesTo transport now arrivals emitter (some {})
        ((reading.accept arrivals.afterReading).accept arrivals.afterSending)
  | settled {reading sending after : Emitter} {report : CycleReport} {page : List QueuedEvent}
      {requests started : List Request} {results collected : List RequestResult}
      (read : emitter.readPage now = (some page, reading)) (nonempty : page ≠ [])
      (made : (reading.accept arrivals.afterReading).requestsOf transport.method page = requests)
      (startsAll : started.Perm requests)
      (dispatched : (reading.accept arrivals.afterReading).dispatch transport now started =
        (results, sending))
      (collectsAll : collected.Perm results)
      (settles : (sending.accept arrivals.afterSending).settle
        ⟨(requests.flatMap Request.ids).length, collected⟩ = (report, after)) :
      CycleComesTo transport now arrivals emitter (some report) after

/-- Nothing but the order of the handed requests tells the two apart. -/
structure AgreesWith (emitter other : Emitter) : Prop where
  queue : emitter.queue = other.queue
  config : emitter.config = other.config
  paused : emitter.paused = other.paused
  bus : emitter.bus = other.bus
  handed : emitter.handed.Perm other.handed

theorem agreesWith_self (emitter : Emitter) : emitter.AgreesWith emitter :=
  ⟨rfl, rfl, rfl, rfl, List.Perm.refl _⟩

section Handed

variable (emitter : Emitter) (handed : List Request)

theorem removeRows_withHanded (ids : List RowId) :
    { emitter with handed }.removeRows ids =
      ((emitter.removeRows ids).1, { (emitter.removeRows ids).2 with handed }) := by
  unfold removeRows
  split <;> rfl

theorem pause_withHanded (reason : String) :
    { emitter with handed }.pause reason = { emitter.pause reason with handed } := by
  unfold pause
  split <;> rfl

theorem removeSettled_withHanded (ids : List RowId) :
    { emitter with handed }.removeSettled ids = { emitter.removeSettled ids with handed } := by
  rw [removeSettled, removeSettled, removeRows_withHanded]
  cases removes : emitter.removeRows ids with
  | mk answer removed =>
      cases answer with
      | ok _ => rfl
      | error cause => exact removed.pause_withHanded handed _

/-- What was handed over plays no part in settling. -/
theorem settle_withHanded (sent : SentPage) :
    { emitter with handed }.settle sent =
      ((emitter.settle sent).1, { (emitter.settle sent).2 with handed }) := by
  rw [settle, settle, removeSettled_withHanded]

end Handed

/-- Which of two orders the requests were handed over in makes no other difference. -/
theorem settle_agreesWith (emitter : Emitter) {handed other : List Request}
    (permutation : handed.Perm other) (sent : SentPage) :
    ({ emitter with handed }.settle sent).1 = ({ emitter with handed := other }.settle sent).1 ∧
      ({ emitter with handed }.settle sent).2.AgreesWith
        ({ emitter with handed := other }.settle sent).2 := by
  rw [settle_withHanded emitter handed, settle_withHanded emitter other]
  exact ⟨rfl, rfl, rfl, rfl, rfl, permutation⟩

/-- The cycle itself sends the requests in their order, and collects the results so. -/
theorem cycleComesTo_cycle (emitter : Emitter) (transport : Transport) (now : Int)
    (arrivals : Arrivals) :
    emitter.CycleComesTo transport now arrivals (emitter.cycle transport now arrivals).1
      (emitter.cycle transport now arrivals).2 := by
  rw [cycle]
  split
  · next reading read => exact .unread read
  · next reading read => exact .noPage read
  · next page reading nonempty read =>
    exact .settled read nonempty rfl (List.Perm.refl _) rfl (List.Perm.refl _) rfl

theorem cycle_of_page {emitter reading : Emitter} {now : Int} {page : List QueuedEvent}
    (transport : Transport) (arrivals : Arrivals)
    (read : emitter.readPage now = (some page, reading)) (nonempty : page ≠ []) :
    let (sent, sending) := (reading.accept arrivals.afterReading).sendPage transport now page
    emitter.cycle transport now arrivals =
      (some ((sending.accept arrivals.afterSending).settle sent).1,
        ((sending.accept arrivals.afterSending).settle sent).2) := by
  obtain ⟨event, rest, rfl⟩ := List.exists_cons_of_ne_nil nonempty
  simp only [cycle, read]

/-- Every order in which requests reach a transport that answers each of them alone, and every
order in which their results are collected, comes to the same report and leaves the same. -/
theorem cycle_ignores_order_of_results (emitter : Emitter) (transport : Transport) (now : Int)
    (arrivals : Arrivals) (alone : transport.AnswersAlone) :
    emitter.CycleComesTo transport now arrivals (emitter.cycle transport now arrivals).1
        (emitter.cycle transport now arrivals).2 ∧
      ∀ report after, emitter.CycleComesTo transport now arrivals report after →
        report = (emitter.cycle transport now arrivals).1 ∧
          after.AgreesWith (emitter.cycle transport now arrivals).2 := by
  refine ⟨emitter.cycleComesTo_cycle transport now arrivals, ?_⟩
  intro report after comesTo
  cases comesTo with
  | unread read =>
      rw [cycle, read]
      exact ⟨rfl, agreesWith_self _⟩
  | noPage read =>
      rw [cycle, read]
      exact ⟨rfl, agreesWith_self _⟩
  | @settled reading sending _ report page requests started results collected read nonempty made
      startsAll dispatched collectsAll settles =>
      obtain ⟨rfl, rfl⟩ := Prod.mk.inj dispatched
      have startsStamped := startsAll.map fun request => request.stamped now
      have sameResults := collectsAll.trans (Transport.outcomes_of_perm alone startsStamped _
        (reading.accept arrivals.afterReading).handed.length)
      have sameHanded := ((List.reverse_perm _).trans
          (startsStamped.trans (List.reverse_perm _).symm)).append_right
        (reading.accept arrivals.afterReading).handed
      obtain ⟨sameReport, agrees⟩ := settle_agreesWith
        ((reading.accept arrivals.afterReading).accept arrivals.afterSending) sameHanded
        ⟨(requests.flatMap Request.ids).length, transport.outcomes
          (reading.accept arrivals.afterReading).handed.length
          (requests.map fun request => request.stamped now)⟩
      rw [settle_of_perm _ _ sameResults] at settles
      obtain rfl : report = _ := (congrArg Prod.fst settles).symm
      obtain rfl : after = _ := (congrArg Prod.snd settles).symm
      subst made
      rw [cycle_of_page transport arrivals read nonempty]
      exact ⟨congrArg some sameReport, agrees⟩

end Emitter

/-- Single requests that get a status by the number of their row. The sending of a row without
one breaks off. -/
def Transport.answeringRows (statuses : Entries RowId Nat) : Transport where
  method := .get
  answer := fun _ request =>
    match request.ids.head?.bind statuses.get? with
    | some status => .returned (request.result (some status))
    | none => .panicked

/-- Of four rows one is delivered, one is given up, one is kept, and the sending of one breaks
off. The last row is sent first, and the first result that is collected is not the first that
was sent. The removal is refused, so both emitters pause, and for the same reason. -/
theorem Emitter.refused_cycle_ignores_order :
    let emitter := ofEmptyRows 4 10 fun call _ => call == .remove
    let transport := Transport.answeringRows [(1, 200), (3, 503), (4, 410)]
    transport.AnswersAlone ∧
      ∃ report after, emitter.CycleComesTo transport 0 {} report after ∧
        after.handed.map Request.ids = [[1], [2], [3], [4]] ∧
        (emitter.cycle transport 0 {}).2.handed.map Request.ids = [[4], [3], [2], [1]] ∧
        report = (emitter.cycle transport 0 {}).1 ∧
        after.AgreesWith (emitter.cycle transport 0 {}).2 ∧ after.paused = true := by
  intro emitter transport
  have alone : transport.AnswersAlone := fun _ _ _ => rfl
  have read : emitter.readPage 0 = _ := readPage_of_memory rfl rfl rfl 0
  have comesTo : emitter.CycleComesTo transport 0 {} _ _ :=
    .settled read (by decide) rfl (List.reverse_perm _) rfl (List.reverse_perm _) rfl
  obtain ⟨same, agrees⟩ :=
    (emitter.cycle_ignores_order_of_results transport 0 {} alone).2 _ _ comesTo
  refine ⟨alone, _, _, comesTo, ?_, ?_, same, agrees, ?_⟩
  · decide
  · decide
  · decide

end Telemetry

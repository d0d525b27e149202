import Telemetry.Delivery.Timeline
import Telemetry.Proofs.Delivery.Cycle

/-!
Contract: an emitter while drains are under way, one small move at a time.

Owns:
- where a drain stands between the phases of its cycles, and the moves of everyone
  who shares the emitter;
- that a drain, and the loop that runs drains as time passes, are such moves.

Does not own: what holds of all runs. Drains exclude each other, so at most one is under
way and the others wait.
-/

namespace Telemetry

/-- Where a drain stands: there is none; it is between two cycles; it has a page to send;
it has the results of a page. -/
inductive DrainStage where
  | idle
  | deciding
  | sending (page : List QueuedEvent)
  | settling (sent : SentPage)
deriving DecidableEq, Repr

/-- An emitter, where its drain stands, and how many drains wait. -/
structure Activity where
  emitter : Emitter
  stage : DrainStage := .idle
  waiting : Nat := 0

/-- What happens to an emitter. A call, a flush and a tick all ask for a drain. -/
inductive Move where
  | insert (payload : Payload) (instant : Int)
  | pause
  | resume
  | switch (refuses : QueueCall → Nat → Bool)
  | ask
  | proceed (now : Int)

namespace Activity

/-- The next phase of the drain that is under way, or the start of one that waits. -/
def proceed (transport : Transport) (now : Int) (activity : Activity) : Activity :=
  match activity.stage with
  | .idle =>
    match activity.waiting with
    | 0 => activity
    | waiting + 1 => { activity with stage := .deciding, waiting }
  | .deciding =>
    if activity.emitter.paused then
      { activity with stage := .idle }
    else
      match activity.emitter.readPage now with
      | (none, emitter) => { activity with emitter, stage := .idle }
      | (some [], emitter) => { activity with emitter, stage := .idle }
      | (some (event :: rest), emitter) =>
        { activity with emitter, stage := .sending (event :: rest) }
  | .sending page =>
    let (sent, emitter) := activity.emitter.sendPage transport now page
    { activity with emitter, stage := .settling sent }
  | .settling sent =>
    let (report, emitter) := activity.emitter.settle sent
    { activity with
      emitter
      stage := if Emitter.goesOn emitter.config report then .deciding else .idle }

def step (transport : Transport) (activity : Activity) : Move → Activity
  | .insert payload instant =>
    { activity with emitter := activity.emitter.accept [(payload, instant)] }
  | .pause => { activity with emitter := activity.emitter.pause Emitter.callerReason }
  | .resume => { activity with emitter := activity.emitter.resume }
  | .switch refuses =>
    { activity with
      emitter := { activity.emitter with queue := { activity.emitter.queue with refuses } } }
  | .ask => { activity with waiting := activity.waiting + 1 }
  | .proceed now => activity.proceed transport now

def after (transport : Transport) (activity : Activity) (moves : List Move) : Activity :=
  moves.foldl (step transport) activity

@[simp] theorem after_nil (transport : Transport) (activity : Activity) :
    activity.after transport [] = activity := rfl

@[simp] theorem after_cons (transport : Transport) (activity : Activity) (move : Move)
    (rest : List Move) :
    activity.after transport (move :: rest) = (activity.step transport move).after transport rest :=
  rfl

theorem after_append (transport : Transport) (activity : Activity) (first second : List Move) :
    activity.after transport (first ++ second) =
      (activity.after transport first).after transport second :=
  List.foldl_append

end Activity

/-! ### Drains as moves -/

namespace Emitter

/-- Drains lead from one emitter to another: nobody else makes a move. -/
def DrainsTo (transport : Transport) (emitter final : Emitter) : Prop :=
  ∃ moves, (∀ move ∈ moves, move = .ask ∨ ∃ now, move = .proceed now) ∧
    Activity.after transport { emitter } moves = { emitter := final }

theorem drainsTo_self (transport : Transport) (emitter : Emitter) :
    emitter.DrainsTo transport emitter :=
  ⟨[], nofun, rfl⟩

theorem DrainsTo.trans {transport : Transport} {first second third : Emitter}
    (left : first.DrainsTo transport second) (right : second.DrainsTo transport third) :
    first.DrainsTo transport third := by
  obtain ⟨before, beforeDrains, leftRun⟩ := left
  obtain ⟨later, laterDrains, rightRun⟩ := right
  refine ⟨before ++ later, ?_, ?_⟩
  · intro move member
    rcases List.mem_append.mp member with inBefore | inLater
    · exact beforeDrains move inBefore
    · exact laterDrains move inLater
  · rw [Activity.after_append, leftRun, rightRun]

/-- A cycle takes three moves, or one if there is nothing to send. -/
theorem proceed_of_cycle {transport : Transport} {now : Int} {emitter next : Emitter}
    {answer : Option CycleReport} (running : emitter.paused = false)
    (cycled : emitter.cycle transport now {} = (answer, next)) :
    ∃ instants : List Int, Activity.after transport { emitter, stage := .deciding }
        (instants.map .proceed) =
      { emitter := next,
        stage := if (answer.any fun report => goesOn next.config report) then .deciding
          else .idle } := by
  have first : Activity.after transport { emitter, stage := .deciding } [.proceed now] =
      match emitter.readPage now with
      | (none, reading) => { emitter := reading, stage := .idle }
      | (some [], reading) => { emitter := reading, stage := .idle }
      | (some (event :: rest), reading) =>
        { emitter := reading, stage := .sending (event :: rest) } := by
    rw [Activity.after_cons, Activity.step, Activity.proceed]
    simp only [running, Bool.false_eq_true, if_false, Activity.after_nil]
  rw [cycle] at cycled
  split at cycled
  · next reading read =>
    obtain ⟨rfl, rfl⟩ := Prod.mk.inj cycled
    rw [read] at first
    exact ⟨[now], first⟩
  · next reading read =>
    obtain ⟨rfl, rfl⟩ := Prod.mk.inj cycled
    rw [read] at first
    exact ⟨[now], first⟩
  · next page reading nonempty read =>
    obtain ⟨rfl, rfl⟩ := Prod.mk.inj cycled
    cases page with
    | nil => exact absurd rfl nonempty
    | cons event rest =>
        rw [read] at first
        refine ⟨[now] ++ [now, now], ?_⟩
        rw [List.map_append, List.map_singleton, Activity.after_append, first]
        rfl

theorem proceed_of_paused {transport : Transport} {now : Int} {emitter : Emitter}
    (paused : emitter.paused = true) :
    Activity.after transport { emitter, stage := .deciding } [.proceed now] = { emitter } := by
  rw [Activity.after_cons, Activity.step, Activity.proceed]
  simp only [paused, if_true, Activity.after_nil]

/-- The moves of one cycle are at one instant, and those of the next at another. -/
theorem proceed_of_drainWithin {transport : Transport} {clock : Time.Clock} {cycles : Nat}
    {emitter final : Emitter} {report : CycleReport}
    (ends : drainWithin transport clock cycles emitter = some (report, final)) :
    ∃ instants : List Int, Activity.after transport { emitter, stage := .deciding }
      (instants.map .proceed) = { emitter := final } := by
  induction cycles generalizing emitter report clock with
  | zero =>
      rw [drainWithin] at ends
      split at ends
      · next paused =>
        obtain ⟨_, rfl⟩ := Prod.mk.inj (Option.some.inj ends)
        exact ⟨[clock.now], proceed_of_paused paused⟩
      · cases ends
  | succ cycles inductionHypothesis =>
      rw [drainWithin] at ends
      split at ends
      · next paused =>
        obtain ⟨_, rfl⟩ := Prod.mk.inj (Option.some.inj ends)
        exact ⟨[clock.now], proceed_of_paused paused⟩
      next running =>
      rw [Bool.not_eq_true] at running
      split at ends
      · next next cycled =>
        obtain ⟨_, rfl⟩ := Prod.mk.inj (Option.some.inj ends)
        exact proceed_of_cycle running cycled
      next counts next cycled =>
      obtain ⟨instants, cycleRun⟩ := proceed_of_cycle running cycled
      rw [Option.any_some] at cycleRun
      split at ends
      · next onward =>
        rw [if_pos onward] at cycleRun
        obtain ⟨⟨rest, last⟩, restEnds, same⟩ := Option.map_eq_some_iff.mp ends
        obtain ⟨_, rfl⟩ := Prod.mk.inj same
        obtain ⟨more, restRun⟩ := inductionHypothesis restEnds
        refine ⟨instants ++ more, ?_⟩
        rw [List.map_append, Activity.after_append, cycleRun]
        exact restRun
      · next stops =>
        rw [if_neg stops] at cycleRun
        obtain ⟨_, rfl⟩ := Prod.mk.inj (Option.some.inj ends)
        exact ⟨instants, cycleRun⟩

/-- A drain that ends is a series of moves. -/
theorem drainsTo_of_drainWithin {transport : Transport} {clock : Time.Clock} {cycles : Nat}
    {emitter final : Emitter} {report : CycleReport}
    (ends : drainWithin transport clock cycles emitter = some (report, final)) :
    emitter.DrainsTo transport final := by
  obtain ⟨instants, run⟩ := proceed_of_drainWithin ends
  refine ⟨[.ask, .proceed clock.now] ++ instants.map .proceed, ?_, ?_⟩
  · intro move member
    rcases List.mem_append.mp member with starting | proceeding
    · rcases List.mem_cons.mp starting with rfl | last
      · exact .inl rfl
      · exact .inr ⟨clock.now, List.mem_singleton.mp last⟩
    · obtain ⟨instant, _, rfl⟩ := List.mem_map.mp proceeding
      exact .inr ⟨instant, rfl⟩
  · rw [Activity.after_append]
    exact run

theorem drainsTo_drain (emitter : Emitter) (transport : Transport) (clock : Time.Clock) :
    emitter.DrainsTo transport (emitter.drain transport clock).2 := by
  unfold drain
  cases ends : drainWithin transport clock endlessCycles emitter with
  | none => exact drainsTo_self transport emitter
  | some result => exact drainsTo_of_drainWithin ends

end Emitter

/-! ### The loop as drains -/

namespace Timeline

theorem act?_drainsTo {timeline next : Timeline} {transport : Transport} {wall : Time.Clock}
    (acts : timeline.act? transport wall = some next) :
    timeline.emitter.DrainsTo transport next.emitter := by
  have drains := timeline.emitter.drainsTo_drain transport (wall.reading timeline.loop.clock)
  have stays := timeline.emitter.drainsTo_self transport
  simp only [act?] at acts
  cases phase : timeline.loop.phase with
  | stopped =>
      rw [phase] at acts
      cases acts
  | starting =>
      rw [phase] at acts
      obtain rfl := Option.some.inj acts
      exact stays
  | timed tick =>
      simp only [phase] at acts
      split at acts
      · obtain rfl := Option.some.inj acts
        exact drains
      · split at acts
        · obtain rfl := Option.some.inj acts
          exact drains
        · cases acts
  | untimed =>
      simp only [phase] at acts
      split at acts
      · cases acts
      · split at acts
        · obtain rfl := Option.some.inj acts
          exact stays
        · obtain rfl := Option.some.inj acts
          exact drains

theorem runWithin_drainsTo (transport : Transport) (wall : Time.Clock) (finish steps : Nat)
    (timeline : Timeline) :
    timeline.emitter.DrainsTo transport
      (runWithin transport wall finish steps timeline).emitter := by
  fun_induction runWithin transport wall finish steps timeline with
  | case1 timeline => exact Emitter.drainsTo_self transport timeline.emitter
  | case2 steps timeline next acts inductionHypothesis =>
      exact (act?_drainsTo acts).trans inductionHypothesis
  | case3 steps timeline _ moment _ inductionHypothesis => exact inductionHypothesis
  | case4 steps timeline => exact Emitter.drainsTo_self transport timeline.emitter

/-- What the loop does to its emitter as time passes is drains, whatever ticks and
signals there are. -/
theorem run_drainsTo (timeline : Timeline) (transport : Transport) (wall : Time.Clock)
    (span : Nat) :
    timeline.emitter.DrainsTo transport (timeline.run transport wall span).emitter := by
  unfold run
  split
  · exact Emitter.drainsTo_self transport timeline.emitter
  · exact runWithin_drainsTo transport wall _ _ timeline

end Timeline

end Telemetry

import Telemetry.Delivery.Emitter

/-!
Contract: what an emitter does with its queue does not depend on what was published.

Owns: emitters that differ in their bus alone, and that each step of a drain leaves such emitters
with the same report.

Does not own: what is published.
-/

namespace Telemetry

namespace Emitter

/-- Two emitters differ in their bus alone. -/
def SameOutbox (emitter mirror : Emitter) : Prop := mirror.toOutbox = emitter.toOutbox

variable {emitter mirror : Emitter}

namespace SameOutbox

theorem readPage (same : emitter.SameOutbox mirror) (now : Int) :
    (mirror.readPage now).1 = (emitter.readPage now).1 ∧
      (emitter.readPage now).2.SameOutbox (mirror.readPage now).2 := by
  obtain ⟨outbox, bus⟩ := emitter
  obtain ⟨_, otherBus⟩ := mirror
  obtain rfl := same
  simp only [Emitter.readPage]
  split
  · exact ⟨rfl, rfl⟩
  · split <;> exact ⟨rfl, rfl⟩

theorem accept (same : emitter.SameOutbox mirror) (arrived : List (Payload × Int)) :
    (emitter.accept arrived).SameOutbox (mirror.accept arrived) := by
  obtain ⟨outbox, bus⟩ := emitter
  obtain ⟨_, otherBus⟩ := mirror
  obtain rfl := same
  rfl

theorem sendPage (same : emitter.SameOutbox mirror) (transport : Transport) (now : Int)
    (page : List QueuedEvent) :
    (mirror.sendPage transport now page).1 = (emitter.sendPage transport now page).1 ∧
      (emitter.sendPage transport now page).2.SameOutbox
        (mirror.sendPage transport now page).2 := by
  obtain ⟨outbox, bus⟩ := emitter
  obtain ⟨_, otherBus⟩ := mirror
  obtain rfl := same
  exact ⟨rfl, rfl⟩

theorem pause (same : emitter.SameOutbox mirror) (reason : String) :
    (emitter.pause reason).SameOutbox (mirror.pause reason) := by
  obtain ⟨outbox, bus⟩ := emitter
  obtain ⟨_, otherBus⟩ := mirror
  obtain rfl := same
  simp only [Emitter.pause]
  split <;> rfl

theorem resume (same : emitter.SameOutbox mirror) : emitter.resume.SameOutbox mirror.resume := by
  obtain ⟨outbox, bus⟩ := emitter
  obtain ⟨_, otherBus⟩ := mirror
  obtain rfl := same
  rfl

theorem removeRows (same : emitter.SameOutbox mirror) (ids : List RowId) :
    (mirror.removeRows ids).1 = (emitter.removeRows ids).1 ∧
      (emitter.removeRows ids).2.SameOutbox (mirror.removeRows ids).2 := by
  obtain ⟨outbox, bus⟩ := emitter
  obtain ⟨_, otherBus⟩ := mirror
  obtain rfl := same
  simp only [Emitter.removeRows]
  split <;> exact ⟨rfl, rfl⟩

theorem removeSettled (same : emitter.SameOutbox mirror) (ids : List RowId) :
    (emitter.removeSettled ids).SameOutbox (mirror.removeSettled ids) := by
  obtain ⟨answers, removed⟩ := same.removeRows ids
  rw [Emitter.removeSettled, Emitter.removeSettled]
  generalize emitter.removeRows ids = answer, mirror.removeRows ids = mirrored at answers removed
  obtain ⟨outcome, after⟩ := answer
  obtain ⟨mirrorOutcome, mirrorAfter⟩ := mirrored
  obtain rfl : outcome = mirrorOutcome := answers.symm
  cases outcome with
  | ok done => exact removed
  | error cause => exact removed.pause _

theorem settle (same : emitter.SameOutbox mirror) (sent : SentPage) :
    (mirror.settle sent).1 = (emitter.settle sent).1 ∧
      (emitter.settle sent).2.SameOutbox (mirror.settle sent).2 := by
  have config : mirror.config = emitter.config := congrArg Outbox.config same
  have removed := same.removeSettled (settledIds emitter.config.retry sent.results)
  simp only [Emitter.settle, config]
  exact ⟨trivial, removed⟩

theorem cycle (same : emitter.SameOutbox mirror) (transport : Transport) (now : Int)
    (arrivals : Arrivals) :
    (mirror.cycle transport now arrivals).1 = (emitter.cycle transport now arrivals).1 ∧
      (emitter.cycle transport now arrivals).2.SameOutbox
        (mirror.cycle transport now arrivals).2 := by
  obtain ⟨answers, read⟩ := same.readPage now
  rw [Emitter.cycle, Emitter.cycle]
  generalize emitter.readPage now = answer, mirror.readPage now = mirrored at answers read
  obtain ⟨page?, after⟩ := answer
  obtain ⟨mirrorPage?, mirrorAfter⟩ := mirrored
  obtain rfl : page? = mirrorPage? := answers.symm
  have accepted := read.accept arrivals.afterReading
  match page? with
  | none => exact ⟨rfl, accepted.accept arrivals.afterSending⟩
  | some [] => exact ⟨rfl, accepted.accept arrivals.afterSending⟩
  | some (event :: rest) =>
      obtain ⟨sentSame, sent⟩ := accepted.sendPage transport now (event :: rest)
      obtain ⟨reports, settled⟩ :=
        (sent.accept arrivals.afterSending).settle
          ((after.accept arrivals.afterReading).sendPage transport now (event :: rest)).1
      simp only [sentSame, reports]
      exact ⟨trivial, settled⟩

/-- Drains make the same reports, and go on as long. -/
theorem drainWithin (same : emitter.SameOutbox mirror) (transport : Transport)
    (clock : Time.Clock) (cycles : Nat) :
    Option.Rel (fun drained mirrored => mirrored.1 = drained.1 ∧ drained.2.SameOutbox mirrored.2)
      (Emitter.drainWithin transport clock cycles emitter)
      (Emitter.drainWithin transport clock cycles mirror) := by
  induction cycles generalizing emitter mirror clock with
  | zero =>
      have paused : mirror.paused = emitter.paused := congrArg Outbox.paused same
      rw [Emitter.drainWithin, Emitter.drainWithin, paused]
      split
      · exact .some ⟨rfl, same⟩
      · exact .none
  | succ cycles inductionHypothesis =>
      have paused : mirror.paused = emitter.paused := congrArg Outbox.paused same
      rw [Emitter.drainWithin, Emitter.drainWithin, paused]
      split
      · exact .some ⟨rfl, same⟩
      · obtain ⟨reports, cycled⟩ := same.cycle transport clock.now {}
        generalize emitter.cycle transport clock.now {} = answer,
          mirror.cycle transport clock.now {} = mirrored at reports cycled
        obtain ⟨report?, after⟩ := answer
        obtain ⟨mirrorReport?, mirrorAfter⟩ := mirrored
        obtain rfl : report? = mirrorReport? := reports.symm
        cases report? with
        | none => exact .some ⟨rfl, cycled⟩
        | some report =>
            have config : mirrorAfter.config = after.config := congrArg Outbox.config cycled
            simp only [config]
            split
            · have rest := inductionHypothesis cycled clock.later
              generalize Emitter.drainWithin transport clock.later cycles after = drained,
                Emitter.drainWithin transport clock.later cycles mirrorAfter = mirrorDrained
                at rest
              cases rest with
              | none => exact .none
              | some both => exact .some ⟨congrArg report.add both.1, both.2⟩
            · exact .some ⟨rfl, cycled⟩

theorem drain (same : emitter.SameOutbox mirror) (transport : Transport) (clock : Time.Clock) :
    (mirror.drain transport clock).1 = (emitter.drain transport clock).1 ∧
      (emitter.drain transport clock).2.SameOutbox (mirror.drain transport clock).2 := by
  have drained := same.drainWithin transport clock endlessCycles
  rw [Emitter.drain, Emitter.drain]
  generalize Emitter.drainWithin transport clock endlessCycles emitter = answer,
    Emitter.drainWithin transport clock endlessCycles mirror = mirrored at drained
  cases drained with
  | none => exact ⟨rfl, same⟩
  | some both => exact both

end SameOutbox

end Emitter

end Telemetry

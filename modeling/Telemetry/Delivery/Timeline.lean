import Telemetry.Delivery.Emitter
import Telemetry.Delivery.Loop

/-!
Contract: an emitter and its background loop, over virtual time.

Owns: what the loop does when a tick or a signal wakes it, and letting time pass.

Does not own: what a drain does. Draining takes no time, so a drain of the loop reads one
instant: what the wall clock shows in that millisecond of the loop.
-/

namespace Telemetry

/-- An emitter with its loop. -/
structure Timeline where
  emitter : Emitter
  loop : EmitterLoop := {}

namespace Timeline

/-- Stops further drains. -/
def pause (timeline : Timeline) : Timeline :=
  { timeline with emitter := timeline.emitter.pause Emitter.callerReason }

def signal (timeline : Timeline) : Timeline := { timeline with loop := timeline.loop.signal }

/-- Lets drains run again, and signals the loop. -/
def resume (timeline : Timeline) : Timeline :=
  { timeline with emitter := timeline.emitter.resume }.signal

def drain (timeline : Timeline) (transport : Transport) (clock : Time.Clock) : Timeline :=
  { timeline with emitter := (timeline.emitter.drain transport clock).2 }

/-- Waits again: for a signal alone while the emitter is paused. -/
def wait (timeline : Timeline) (nextTick : Nat) : Timeline :=
  { timeline with
    loop := { timeline.loop with
      phase := if timeline.emitter.paused then .untimed else .timed nextTick } }

def taken (timeline : Timeline) : Timeline := { timeline with loop := timeline.loop.taken }

/-- What the loop does at this moment, if it has something to do. A tick or a
signal is a drain. A signal that finds a paused emitter is lost, and one that
finds it running again starts a new interval. -/
def act? (timeline : Timeline) (transport : Transport) (wall : Time.Clock) : Option Timeline :=
  let loop := timeline.loop
  let now := wall.reading loop.clock
  let nextTick := loop.clock + timeline.emitter.config.interval
  match loop.phase with
  | .stopped => none
  | .starting => some (timeline.wait loop.clock)
  | .timed tick =>
    if tick ≤ loop.clock then
      some ((timeline.drain transport now).wait nextTick)
    else if 0 < loop.signals then
      some ((timeline.taken.drain transport now).wait tick)
    else
      none
  | .untimed =>
    if loop.signals = 0 then
      none
    else if timeline.emitter.paused then
      some timeline.taken
    else
      some ((timeline.taken.drain transport now).wait nextTick)

/-- The next moment at which the loop has something to do, before `finish`. -/
def nextMoment? (timeline : Timeline) (finish : Nat) : Option Nat :=
  match timeline.loop.phase with
  | .timed tick => if tick < finish then some tick else none
  | _ => none

def atMoment (timeline : Timeline) (moment : Nat) : Timeline :=
  { timeline with loop := { timeline.loop with clock := moment } }

/-- Lets time pass until `finish`, in at most `steps` steps. -/
def runWithin (transport : Transport) (wall : Time.Clock) (finish : Nat) :
    (steps : Nat) → Timeline → Timeline
  | 0, timeline => timeline.atMoment finish
  | steps + 1, timeline =>
    match timeline.act? transport wall with
    | some next => runWithin transport wall finish steps next
    | none =>
      match timeline.nextMoment? finish with
      | some moment => runWithin transport wall finish steps (timeline.atMoment moment)
      | none => timeline.atMoment finish

/-- Lets `span` milliseconds pass. Each millisecond has at most one tick, which
takes two steps, and there are at most two signals and a start. -/
def run (timeline : Timeline) (transport : Transport) (wall : Time.Clock) (span : Nat) :
    Timeline :=
  if span = 0 then
    timeline
  else
    runWithin transport wall (timeline.loop.clock + span) (2 * span + 8) timeline

end Timeline

end Telemetry

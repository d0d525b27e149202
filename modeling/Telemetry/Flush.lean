import Telemetry.Configuration.Reader
import Telemetry.Delivery.Emitter
import Telemetry.Delivery.Endpoint

/-!
Contract: delivering what a queue holds, once and without a loop.

Owns:
- which configuration file is used, and what must be right before anything is
  sent;
- draining until a drain finds nothing or keeps a row;
- the summary.

Does not own: opening the queue and sending.
-/

namespace Telemetry

/-- Why nothing was flushed. -/
inductive FlushError where
  | configuration (cause : ConfigurationError)
  | endpoint (cause : EndpointError)
  | queue (cause : QueueError)
deriving DecidableEq, Repr

/-- What a flush came to, and how many rows are left. -/
structure FlushReport where
  delivery : CycleReport
  remaining : Nat
deriving DecidableEq, Repr

def FlushReport.summary (report : FlushReport) : String :=
  let count (number : Nat) : String := Decimal.integerText number
  "sent " ++ count report.delivery.sent ++ " dropped " ++ count report.delivery.dropped ++
    " retained " ++ count report.delivery.retained ++ "; " ++ count report.remaining ++
    " rows remain"

structure Flush where
  configuration : Configuration
  endpoint : Endpoint
deriving DecidableEq, Repr

namespace Flush

/-- The status with which the program ends if nothing was flushed. -/
def failureStatus : Nat := 101

/-- The configuration file that is used when none is named. -/
def usualPath : String := "pulse.toml"

/-- The variable that names a configuration file. -/
def pathVariable : String := "PULSE_CONFIG_PATH"

/-- The configuration file: the one that the argument names, or else the variable.
A blank name is none. -/
def configurationPath (argument : Option String) (environment : String → Option String) : String :=
  ((argument.filter Text.hasContent).or
    ((environment pathVariable).filter Text.hasContent)).getD usualPath

def ofConfiguration (configuration : Configuration) : Except FlushError Flush :=
  match Endpoint.ofText configuration.delivery.endpoint with
  | .error cause => .error (.endpoint cause)
  | .ok endpoint => .ok ⟨configuration, endpoint⟩

def configure (file : FileContents) (environment : String → Option String) :
    Except FlushError Configuration :=
  (Configuration.load (some file) environment).mapError .configuration

/-- Drains at most `most` times, until a drain finds nothing or keeps a row. The
answer sums the counts. -/
def drainWithin (transport : Transport) (now : Int) :
    (most : Nat) → Emitter → CycleReport × Emitter
  | 0, emitter => ({}, emitter)
  | most + 1, emitter =>
    let (report, emitter) := emitter.drain transport now
    if report.attempted = 0 || 0 < report.retained then
      (report, emitter)
    else
      let (rest, emitter) := drainWithin transport now most emitter
      (report.add rest, emitter)

/-- Flushes a queue. A drain that is followed by another one removed a row or
paused the emitter, so two more drains than rows are enough. -/
def run (flush : Flush) (queue : EventQueue) (transport : Transport) (now : Int) :
    Except FlushError (FlushReport × Emitter) := do
  let pending ← queue.backend.count.mapError .queue
  let emitter : Emitter :=
    { Outbox.ofQueue queue flush.configuration.deliveryConfig with bus := Bus.standard }
  let (delivery, emitter) := drainWithin transport now (pending + 2) emitter
  let remaining ← emitter.queue.backend.count.mapError .queue
  return (⟨delivery, remaining⟩, emitter)

end Flush

end Telemetry

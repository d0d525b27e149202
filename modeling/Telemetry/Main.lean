import Std.Time.DateTime.Timestamp
import Telemetry.Flush.Transcript
import Telemetry.Queue.File

/-!
Contract: the command line, which flushes a queue file.

Owns: the arguments, the environment, the files and the clock. Each message is
printed on a line, and the status of its answer is read from a line; a line that
is no number means that there was no answer.

Does not own: any decision on events.
-/

namespace Telemetry.CommandLine

def contentsOf (path : String) : IO FileContents := do
  try
    return .ofBytes (← IO.FS.readBinFile path)
  catch
    | .noFileOrDirectory .. => return .missing
    | _ => return .unreadable

/-- The queue of a file; a missing file holds none. -/
def queueOf (path : String) : IO (Option TableQueue) := do
  match ← contentsOf path with
  | .missing => return some .empty
  | .unreadable => return none
  | .read text => return TableQueue.ofFileText? text

/-- Carries messages until no status is missing. -/
partial def carry (flush : Flush) (queue : EventQueue) (now : Int)
    (statuses : List (Option Nat)) : IO (Except FlushError (FlushReport × Emitter)) := do
  match flush.progress queue statuses now with
  | .error cause => return .error cause
  | .ok (.finished report emitter) => return .ok (report, emitter)
  | .ok (.awaiting message) =>
    let stdout ← IO.getStdout
    stdout.putStrLn (flush.messageLine message)
    stdout.flush
    let answer ← (← IO.getStdin).getLine
    carry flush queue now (statuses ++ [Decimal.readNat? (Text.trim answer)])

/-- Prints a failure, and gives the status of the program. -/
def fail (message : String) : IO UInt32 := do
  IO.eprintln message
  return UInt32.ofNat Flush.failureStatus

def flushQueue (flush : Flush) : IO UInt32 := do
  let path := flush.configuration.storage.path
  match ← queueOf path with
  | none => fail "failed to open event store, check store.path in config"
  | some queue =>
    let now := (← Std.Time.Timestamp.now).toMillisecondsSinceUnixEpoch.val
    match ← carry flush { backend := .table queue } (Time.nowMillis now) [] with
    | .error _ => fail "failed to count stored events"
    | .ok (report, emitter) =>
      match emitter.queue.backend with
      | .table left => IO.FS.writeFile path left.fileText
      | .memory _ => pure ()
      IO.println report.summary
      return 0

/-- Flushes with the configuration that the arguments and the environment name. -/
def run (arguments : List String) : IO UInt32 := do
  let named := [Flush.pathVariable] ++ Configuration.variableNames
  let values ← named.mapM fun name => do return (name, ← IO.getEnv name)
  let environment (name : String) : Option String :=
    ((values.find? fun entry => entry.1 == name).map Prod.snd).join
  let file ← contentsOf (Flush.configurationPath arguments.head? environment)
  match Flush.configure file environment with
  | .error _ => fail "failed to load configuration, check the configuration file"
  | .ok configuration =>
    match Flush.ofConfiguration configuration with
    | .error _ => fail "invalid collector endpoint, check emitter.endpoint in config"
    | .ok flush => flushQueue flush

end Telemetry.CommandLine

def main (arguments : List String) : IO UInt32 := Telemetry.CommandLine.run arguments

import Telemetry.Database
import Telemetry.Decimal.Digits
import Telemetry.Delivery.Config
import Telemetry.Session
import Telemetry.Text.Blank
import Telemetry.Tracker.Settings

/-!
Contract: the configuration of a tracker, as a file and the environment give it.

Owns:
- the five sections with their usual values;
- the set-ups of the session, the emitter and the database that follow;
- the variables of the environment that replace single values.

Does not own: the format of the file.
-/

namespace Telemetry

/-- How long a session may be idle, in seconds. -/
structure SessionTimeouts where
  foreground : Nat := 1800
  background : Nat := 1800
deriving DecidableEq, Repr

/-- Where events are delivered and how. The interval is in milliseconds and the
timeout of a request in seconds. `retryCodes` are decisions on single statuses,
under texts that are meant as numbers. -/
structure DeliverySection where
  endpoint : String := ""
  method : DeliveryMethod := .post
  grouping : Grouping := .single
  emitRange : Nat := 150
  byteLimitGet : Nat := 40000
  byteLimitPost : Nat := 40000
  workers : Nat := 15
  retry : Bool := true
  retryCodes : Entries String Bool := []
  interval : Nat := 5000
  requestTimeout : Nat := 30
deriving DecidableEq, Repr

/-- Where events are queued. The greatest age is in seconds, the time to wait for
a lock in milliseconds. -/
structure StorageSection where
  path : String := "pulse.db"
  maxRows : Option Nat := none
  maxAge : Option Nat := none
  busyTimeout : Nat := 5000
  connections : Nat := 4
deriving DecidableEq, Repr

structure LoggingSection where
  level : String := "info"
  json : Bool := false
deriving DecidableEq, Repr

structure Configuration where
  tracker : TrackerSettings := {}
  session : SessionTimeouts := {}
  delivery : DeliverySection := {}
  storage : StorageSection := {}
  logging : LoggingSection := {}
deriving DecidableEq, Repr

/-- The greatest number of 16 bits. -/
def statusLimit : Nat := 0xFFFF

/-- The status that a text means: a number of 16 bits, with blanks around it or
not. -/
def statusOf? (text : String) : Option Nat :=
  (Decimal.readNat? (Text.trim text)).filter fun status => decide (status ≤ statusLimit)

/-- The decisions on single statuses, from texts in the order in which they are
visited: of two texts that mean one status the later wins. Texts that mean none
are left out. -/
def RetryRules.ofCodes (enabled : Bool) (visited : List (String × Bool)) : RetryRules where
  enabled := enabled
  overrides := visited.foldl
    (fun overrides entry =>
      match statusOf? entry.1 with
      | some status => overrides.insert status entry.2
      | none => overrides)
    []

namespace Configuration

/-- The set-up of the session. -/
def sessionConfig (configuration : Configuration) : SessionConfig where
  foregroundTimeout := configuration.session.foreground * 1000
  backgroundTimeout := configuration.session.background * 1000

/-- The set-up of the emitter, with the least values that work. -/
def deliveryConfig (configuration : Configuration) : DeliveryConfig :=
  let delivery := configuration.delivery
  DeliveryConfig.normalized {
    grouping := delivery.grouping
    emitRange := delivery.emitRange
    byteLimitGet := delivery.byteLimitGet
    byteLimitPost := delivery.byteLimitPost
    workers := delivery.workers
    retry := .ofCodes delivery.retry delivery.retryCodes
    interval := delivery.interval
    eviction := {
      maxRows := configuration.storage.maxRows
      maxAge := configuration.storage.maxAge.map (· * 1000) } }

def databaseSettings (configuration : Configuration) : DatabaseSettings where
  busyTimeout := configuration.storage.busyTimeout
  connections := configuration.storage.connections

/-- The variables of the environment that replace values. -/
def variableNames : List String :=
  ["PULSE_NAMESPACE", "PULSE_APP_ID", "PULSE_ENDPOINT", "PULSE_DB_PATH", "PULSE_LOG_LEVEL",
    "PULSE_LOG_JSON"]

/-- A variable switches something on. -/
def isOn (value : String) : Bool := value == "true" || value == "1"

/-- The configuration with the values that variables replace. -/
def withVariables (configuration : Configuration) (environment : String → Option String) :
    Configuration :=
  let { tracker, session, delivery, storage, logging } := configuration
  { tracker := { tracker with
      scope := (environment "PULSE_NAMESPACE").getD tracker.scope
      appId := (environment "PULSE_APP_ID").getD tracker.appId }
    session := session
    delivery := { delivery with
      endpoint := (environment "PULSE_ENDPOINT").getD delivery.endpoint }
    storage := { storage with
      path := (environment "PULSE_DB_PATH").getD storage.path }
    logging := {
      level := (environment "PULSE_LOG_LEVEL").getD logging.level
      json := ((environment "PULSE_LOG_JSON").map isOn).getD logging.json } }

end Configuration

end Telemetry

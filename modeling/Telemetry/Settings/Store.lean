import Telemetry.Settings.Memory
import Telemetry.Settings.Table

/-!
Contract: the settings store that sessions and trackers are given.

Owns:
- the choice between memory and a table;
- outages: which calls the store refuses, by kind and by how many calls were
  made before.

Does not own: what the records mean.
-/

namespace Telemetry

/-- How the records are kept. -/
inductive SettingsBackend where
  | memory (settings : MemorySettings)
  | table (settings : SettingsTable)
deriving DecidableEq, Repr

namespace SettingsBackend

def get : SettingsBackend → SettingsKey → Except SettingsError (Option Json)
  | .memory settings, key => .ok (settings.get key)
  | .table settings, key => settings.get key

def set : SettingsBackend → SettingsKey → Json → Except SettingsError SettingsBackend
  | .memory settings, key, value => .ok (.memory (settings.set key value))
  | .table settings, key, value => (settings.set key value).map .table

def remove : SettingsBackend → SettingsKey → Except SettingsError SettingsBackend
  | .memory settings, key => .ok (.memory (settings.remove key))
  | .table settings, key => (settings.remove key).map .table

def migrate :
    SettingsBackend → SettingsKey → (Json → Option Json) →
      Except SettingsError (Bool × SettingsBackend)
  | .memory settings, key, transform =>
    let (moved, settings) := settings.migrate key transform
    .ok (moved, .memory settings)
  | .table settings, key, transform =>
    (settings.migrate key transform).map fun answer => (answer.1, .table answer.2)

end SettingsBackend

/-- The kinds of call that can be refused. -/
inductive SettingsCall where
  | get
  | set
  | migrate
deriving DecidableEq, Repr

/-- A store with its outages: `refuses` is told the kind of call and how many
calls were made before it. -/
structure SettingsStore where
  backend : SettingsBackend
  refuses : SettingsCall → Nat → Bool := fun _ _ => false
  calls : Nat := 0

namespace SettingsStore

/-- The reason a refused call gives. -/
def outage : SettingsError := .refused "disk full"

def called (store : SettingsStore) : SettingsStore := { store with calls := store.calls + 1 }

/-- Reads a record. -/
def get (store : SettingsStore) (key : SettingsKey) :
    Except SettingsError (Option Json) × SettingsStore :=
  if store.refuses .get store.calls then
    (.error outage, store.called)
  else
    (store.backend.get key, store.called)

/-- Writes a record. -/
def set (store : SettingsStore) (key : SettingsKey) (value : Json) :
    Except SettingsError Unit × SettingsStore :=
  if store.refuses .set store.calls then
    (.error outage, store.called)
  else
    match store.backend.set key value with
    | .error cause => (.error cause, store.called)
    | .ok backend => (.ok (), { store.called with backend := backend })

/-- Removes a record. A missing record is no failure. -/
def remove (store : SettingsStore) (key : SettingsKey) :
    Except SettingsError Unit × SettingsStore :=
  match store.backend.remove key with
  | .error cause => (.error cause, store)
  | .ok backend => (.ok (), { store with backend := backend })

/-- Moves a legacy record. -/
def migrate
    (store : SettingsStore)
    (key : SettingsKey)
    (transform : Json → Option Json) :
    Except SettingsError Bool × SettingsStore :=
  if store.refuses .migrate store.calls then
    (.error outage, store.called)
  else
    match store.backend.migrate key transform with
    | .error cause => (.error cause, store.called)
    | .ok (moved, backend) => (.ok moved, { store.called with backend := backend })

end SettingsStore

end Telemetry

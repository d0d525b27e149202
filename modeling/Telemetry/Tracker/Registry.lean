import Telemetry.Tracker.Creation

/-!
Contract: the trackers of an application under their scopes.

Owns: registration with replacement, also of a tracker that is created for it, the
default tracker, and removal; a tracker that leaves is shut down.

Does not own: how a tracker is created.
-/

namespace Telemetry

/-- Trackers under their scopes, and the scope of the default one. -/
structure Registry (η : Type) where
  trackers : Entries String (Tracker η) := []
  default : Option String := none

namespace Registry

variable {η : Type}

def get? (registry : Registry η) (scope : String) : Option (Tracker η) :=
  registry.trackers.get? scope

def defaultTracker? (registry : Registry η) : Option (Tracker η) :=
  registry.default.bind registry.get?

/-- The scopes, ascending. -/
def scopes (registry : Registry η) : List String := registry.trackers.keys

/-- Registers a tracker, as the default one if there is none. The answer is the
tracker that it replaces, shut down. -/
def insert (registry : Registry η) (tracker : Tracker η) : Option (Tracker η) × Registry η :=
  let scope := tracker.settings.scope
  ((registry.get? scope).map Tracker.shutdown,
    { trackers := registry.trackers.insert scope tracker
      default := registry.default.or (some scope) })

/-- Creates a tracker and registers it. The answer is that tracker, and the one that it
replaces, shut down; if none is created the registry stays. -/
def create
    (registry : Registry η)
    (configuration : Configuration)
    (opened : Except String (Tracker.Parts η))
    (inRuntime : Bool)
    (now : Int) :
    Except CreationError (Tracker η × Option (Tracker η)) × Registry η :=
  match Tracker.ofConfiguration configuration opened inRuntime now with
  | .error cause => (.error cause, registry)
  | .ok tracker =>
    let (replaced, registry) := registry.insert tracker
    (.ok (tracker, replaced), registry)

/-- Makes the tracker of a scope the default one, if there is such. -/
def setDefault (registry : Registry η) (scope : String) : Bool × Registry η :=
  if registry.trackers.contains scope then
    (true, { registry with default := some scope })
  else
    (false, registry)

/-- Removes the tracker of a scope. The answer is that tracker, shut down. -/
def remove (registry : Registry η) (scope : String) : Option (Tracker η) × Registry η :=
  match registry.get? scope with
  | none => (none, registry)
  | some tracker =>
    (some tracker.shutdown,
      { trackers := registry.trackers.erase scope
        default := if registry.default = some scope then none else registry.default })

/-- Removes all trackers. The answer are those trackers, shut down. -/
def removeAll (registry : Registry η) : List (Tracker η) × Registry η :=
  (registry.trackers.map fun entry => entry.2.shutdown, {})

/-- Puts a tracker that acted back in its place. -/
def update (registry : Registry η) (scope : String) (tracker : Tracker η) : Registry η :=
  { registry with trackers := registry.trackers.insert scope tracker }

end Registry

end Telemetry

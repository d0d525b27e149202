import Telemetry.Json.Members
import Telemetry.Queue.Store
import Telemetry.Settings.Store

/-!
Contract: outages that are switched on and off by forms.

Owns: the switches of a settings store and of an event queue; a switch that a
form leaves out stays as it is.

Does not own: what a refused call means to its caller.
-/

namespace Telemetry.Rehearsal

/-- The kinds of settings call that are refused. -/
structure SettingsOutage where
  get : Bool := false
  set : Bool := false
  migrate : Bool := false

def SettingsOutage.switched (outage : SettingsOutage) (form : Json) : SettingsOutage where
  get := (form.boolAt? "get").getD outage.get
  set := (form.boolAt? "set").getD outage.set
  migrate := (form.boolAt? "migrate").getD outage.migrate

def SettingsOutage.refuses (outage : SettingsOutage) : SettingsCall → Nat → Bool
  | .get, _ => outage.get
  | .set, _ => outage.set
  | .migrate, _ => outage.migrate

/-- The kinds of queue call that are refused. Eviction is not among them. -/
structure QueueOutage where
  insert : Bool := false
  read : Bool := false
  remove : Bool := false

def QueueOutage.switched (outage : QueueOutage) (form : Json) : QueueOutage where
  insert := (form.boolAt? "insert").getD outage.insert
  read := (form.boolAt? "read").getD outage.read
  remove := (form.boolAt? "remove").getD outage.remove

def QueueOutage.refuses (outage : QueueOutage) : QueueCall → Nat → Bool
  | .insert, _ => outage.insert
  | .read, _ => outage.read
  | .remove, _ => outage.remove
  | .evict, _ => false

def settingsKey (form : Json) : SettingsKey := ⟨form.textAt "namespace", form.textAt "key"⟩

/-- Puts a record of a form into a backend, past any switch. A raw text goes into
a table as it is. -/
def seed (backend : SettingsBackend) (form : Json) : SettingsBackend :=
  let key := settingsKey form
  match form.textAt? "raw", backend with
  | some raw, .table settings =>
    ((settings.setText key raw).toOption.map .table).getD backend
  | some _, .memory _ => backend
  | none, _ => ((backend.set key (form.memberOrNull "value")).toOption).getD backend

def seeded (table : Bool) (forms : List Json) : SettingsBackend :=
  forms.foldl seed (if table then .table .empty else .memory .empty)

end Telemetry.Rehearsal

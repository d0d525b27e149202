import Telemetry.Json

/-!
Contract: small durable records under a scope and a name.

Owns:
- the keys of records, and the scope that holds records of the legacy layout;
- the causes of failure and their wording;
- the record map on which both kinds of store are built.

Does not own: how a store keeps a record's value.
-/

namespace Telemetry

/-- Where a record is kept: the scope is the namespace of a tracker. -/
structure SettingsKey where
  scope : String
  name : String
deriving DecidableEq, Repr

def legacyScope : String := ""

/-- Where the legacy record of a name is kept. -/
def SettingsKey.legacy (name : String) : SettingsKey := ⟨legacyScope, name⟩

/-- Why a call fails: the store refuses it, its table is gone, or a stored text
is no value. -/
inductive SettingsError where
  | refused (reason : String)
  | noTable
  | unreadable
deriving DecidableEq, Repr

/-- The wording of a cause. -/
def SettingsError.message : SettingsError → String
  | .refused reason => "settings backend error: " ++ reason
  | .noTable => "settings backend error: no such table: settings"
  | .unreadable => "settings serialization error"

/-- Values under record keys, each key at most once. -/
abbrev Records (α : Type) := Entries SettingsKey α

namespace Records

variable {α : Type}

/-- Puts `value` under `key`, in place of what was there. -/
def put (records : Records α) (key : SettingsKey) (value : α) : Records α :=
  (key, value) :: Entries.erase records key

theorem get?_put
    (records : Records α)
    (key wanted : SettingsKey)
    (value : α) :
    Entries.get? (put records key value) wanted =
      if key = wanted then some value else Entries.get? records wanted := by
  by_cases same : key = wanted <;> simp [put, Entries.get?, Entries.get?_erase, same]

end Records

end Telemetry

/-!
Contract: how a tracker is set up.

Owns: the names that a tracker gives to its events, and which parts of it are
on, with the usual values.

Does not own: the set-up of its session and emitter.
-/

namespace Telemetry

structure TrackerSettings where
  scope : String := "default"
  appId : String := ""
  platform : String := "mob"
  base64 : Bool := true
  sessionContext : Bool := true
  platformContext : Bool := false
  lifecycle : Bool := true
  deepLinks : Bool := true
  install : Bool := true
  anonymise : Bool := false
deriving DecidableEq, Repr

end Telemetry

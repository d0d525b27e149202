import Telemetry.State.Machine

/-!
Contract: the machine that carries a received link to the next screen.

Owns: its transitions, and the entity it gives to a screen view.

Does not own: the events of links and screens.
-/

namespace Telemetry

namespace DeepLink

/-- The link that an event tells of: its address must be a text. -/
def ofEvent? (event : ObservedEvent) : Option DeepLink :=
  (event.string? "url").map fun url => ⟨url, event.string? "referrer"⟩

def entity (link : DeepLink) : Entity where
  schema := Schemas.deepLink
  data := Entries.ofPairs
    ([("url", .string link.url)] ++
      (link.referrer.map fun text => ("referrer", Json.string text)).toList)

end DeepLink

namespace DeepLinkState

def ofState? : Option MachineState → Option DeepLinkState
  | some (.deepLink state) => some state
  | _ => none

def afterScreen? : DeepLinkState → Option DeepLinkState
  | .pending link => some (.ready link)
  | .ready _ => some .consumed
  | .consumed => none

/-- The state after an event: a link waits, and a screen takes it. -/
def next? (event : ObservedEvent) (state : Option DeepLinkState) : Option DeepLinkState :=
  if event.schema = some Schemas.deepLinkReceived then
    (DeepLink.ofEvent? event).map .pending
  else
    state.bind afterScreen?

def entities? : Option DeepLinkState → Option (List Entity)
  | some (.ready link) => some [link.entity]
  | _ => none

def identifier : String := "DeepLinkContext"

def machine (ω : Type) : Machine ω where
  identifier := identifier
  kind := .deepLink
  subscriptions := {
    transitions := .only [Schemas.deepLinkReceived, Schemas.screenView]
    entities := .only [Schemas.screenView] }
  transition := fun event state world =>
    ((next? event (ofState? state)).map .deepLink, world)
  entities := fun _ state world => (entities? (ofState? state), world)

end DeepLinkState

end Telemetry

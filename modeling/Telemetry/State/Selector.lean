/-!
Contract: which events a state machine is asked about.

Owns: the selection of event identifiers, and one selection for each question
that a machine can be asked.

Does not own: the questions.
-/

namespace Telemetry

/-- A selection of event identifiers. -/
inductive Selector where
  | none
  | all
  | only (identifiers : List String)
deriving DecidableEq, Repr

namespace Selector

def selects : Selector → String → Bool
  | .none, _ => false
  | .all, _ => true
  | .only identifiers, identifier => identifiers.contains identifier

end Selector

/-- The events for which a machine moves to a next state, gives entities, gives
payload values, votes, and is told that an event was tracked. -/
structure Subscriptions where
  transitions : Selector := .none
  entities : Selector := .none
  payloadValues : Selector := .none
  filter : Selector := .none
  afterTrack : Selector := .none
deriving DecidableEq, Repr

end Telemetry

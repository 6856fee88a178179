import Courier.Feedback
import Courier.Gate.Basic

/-!
# Gate registries

One gate for each resource, made when it is first asked for, from the settings of the resource or
the defaults, and kept for good.
-/

set_option autoImplicit false
set_option relaxedAutoImplicit false

namespace Courier

/-- The gates of all resources. -/
structure GateRegistry where
  defaults : GateSettings
  /-- Settings of single resources. -/
  overrides : List (String × GateSettings) := []
  feedback : Feedback := {}
  /-- In the order of resources. -/
  gates : List (String × Gate) := []

namespace GateRegistry

/-- The settings that a resource gets. -/
def settingsFor (r : GateRegistry) (resource : String) : GateSettings :=
  (Json.lookup resource r.overrides).getD r.defaults

/-- Gives a resource settings of its own. -/
def withOverride (r : GateRegistry) (resource : String) (settings : GateSettings) :
    GateRegistry :=
  { r with overrides := Json.insertMember resource settings r.overrides }

/-- The gate of a resource that has been used. -/
def get? (r : GateRegistry) (resource : String) : Option Gate := Json.lookup resource r.gates

/-- Puts a gate back. -/
def set (r : GateRegistry) (g : Gate) : GateRegistry :=
  { r with gates := Json.insertMember g.resource g r.gates }

/-- The gate of a resource; it is made if there is none yet. -/
def gate (r : GateRegistry) (resource : String) : Except Crash (Gate × GateRegistry) :=
  match r.get? resource with
  | some g => .ok (g, r)
  | none =>
    match Gate.new resource (r.settingsFor resource) with
    | .error crash => .error crash
    | .ok g => .ok (g, r.set g)

/-- Heeds a rate limit of the provider of a resource: the cooldown applied and the event to report,
if feedback is enabled. -/
def heed (r : GateRegistry) (resource : String) (retryAfter : Option Duration) (wall : Nat) :
    Except Crash (Option (Duration × Event)) × GateRegistry :=
  match r.gate resource with
  | .error crash => (.error crash, r)
  | .ok (g, r) =>
    match r.feedback.heed resource g.limiter retryAfter wall with
    | .error crash => (.error crash, r)
    | .ok none => (.ok none, r)
    | .ok (some (cooldown, limiter, event)) =>
      (.ok (some (cooldown, event)), r.set { g with limiter })

/-- The state of the circuit of a resource that has been used. -/
def circuitState? (r : GateRegistry) (resource : String) : Option CircuitState :=
  (r.get? resource).map fun g => g.breaker.state

/-- The states of all circuits. -/
def circuitStates (r : GateRegistry) : List (String × CircuitState) :=
  r.gates.map fun e => (e.1, e.2.breaker.state)

/-- The resources that have been used, in order. -/
def resources (r : GateRegistry) : List String := r.gates.map Prod.fst

/-- The registry in one line. -/
def summary (r : GateRegistry) : String :=
  "ResilienceRegistry \x7b resources: " ++ Text.quoteAll r.resources ++ ", overrides: " ++
    Text.quoteAll (r.overrides.map Prod.fst) ++ ", .. \x7d"

end GateRegistry

end Courier

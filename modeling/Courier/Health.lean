import Courier.CircuitBreaker
import Courier.DeadLetter.Entry

/-!
# Health

A report on the circuits and the dead letters. The service is degraded while a circuit is open;
half-open circuits and dead letters do not count against it.
-/

set_option autoImplicit false
set_option relaxedAutoImplicit false

namespace Courier

/-- The verdict of a report. -/
inductive HealthStatus where
  | up
  | degraded
  deriving DecidableEq, Repr

/-- The name of a verdict. -/
def HealthStatus.name : HealthStatus → String
  | up => "UP"
  | degraded => "DEGRADED"

/-- A report. -/
structure HealthReport where
  /-- The state of each circuit, in the order of resources. -/
  circuits : List (String × CircuitState)
  /-- The number of dead letters in some states, in the order of states. -/
  deadLetters : List (DeadLetterStatus × Nat)
  deriving DecidableEq, Repr

namespace HealthReport

/-- The resources whose circuit is open. -/
def openCircuits (r : HealthReport) : List String :=
  (r.circuits.filter fun c => c.2 = .opened).map Prod.fst

/-- The verdict. -/
def status (r : HealthReport) : HealthStatus :=
  if r.openCircuits.isEmpty then .up else .degraded

/-- The record of a report. -/
def toJson (r : HealthReport) : Json :=
  .ofMembers
    [("status", .string r.status.name),
     ("circuits", .ofMembers (r.circuits.map fun c => (c.1, .string c.2.name))),
     ("dead_letters", .ofMembers (r.deadLetters.map fun d => (d.1.name, .ofNat d.2)))]

end HealthReport

end Courier

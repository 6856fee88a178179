import Courier.Delivery.Failure
import Courier.Gate.Settings
import Courier.Text.Quoted

/-!
# Gates

The gate of an endpoint: the slots, the limiter and the breaker that all calls to it share. Passing
it ends with an outcome: the payload was delivered, or it was not after some attempts, or the call was
turned away before the first one.
-/

set_option autoImplicit false
set_option relaxedAutoImplicit false

namespace Courier

/-- Who turned a call away. -/
inductive Rejection where
  | bulkheadFull
  | rateLimited
  | circuitOpen
  deriving DecidableEq, Repr

namespace Rejection

/-- The name of a rejection. -/
def name : Rejection → String
  | bulkheadFull => "BulkheadFull"
  | rateLimited => "RateLimited"
  | circuitOpen => "CircuitOpen"

/-- The failure of a delivery that was turned away. -/
def failure : Rejection → DeliveryFailure
  | bulkheadFull => .bulkheadFull
  | rateLimited => .rateLimited
  | circuitOpen => .circuitOpen

end Rejection

/-- How a call ended. -/
inductive GateOutcome where
  | delivered (attempts : Nat) (result : SendResult)
  | failed (attempts : Nat) (result : SendResult)
  | rejected (rejection : Rejection)
  deriving DecidableEq, Repr

namespace GateOutcome

/-- The payload was taken. -/
def isDelivered : GateOutcome → Bool
  | delivered .. => true
  | _ => false

/-- The number of attempts made. -/
def attempts : GateOutcome → Nat
  | delivered n _ | failed n _ => n
  | rejected _ => 0

/-- Why the payload was not delivered. -/
def failure? : GateOutcome → Option DeliveryFailure
  | delivered .. => none
  | failed _ result => some (.ofResult result)
  | rejected rejection => some rejection.failure

end GateOutcome

/-- A gate. -/
structure Gate where
  resource : String
  settings : GateSettings
  bulkhead : Bulkhead
  limiter : RateLimiter
  breaker : CircuitBreaker

namespace Gate

/-- A gate that has not been used. -/
def new (resource : String) (settings : GateSettings) : Except Crash Gate := do
  let bulkhead ← Bulkhead.new settings.bulkhead
  let limiter ← RateLimiter.new settings.limiter
  return { resource, settings, bulkhead, limiter, breaker := { settings := settings.breaker } }

/-- The gate in one line. -/
def summary (g : Gate) : String :=
  "ResilienceGate \x7b resource: " ++ Text.quote g.resource ++
    ", circuit: " ++ g.breaker.state.label ++
    ", bulkhead_available: " ++ toString g.bulkhead.free ++ ", .. \x7d"

end Gate

end Courier

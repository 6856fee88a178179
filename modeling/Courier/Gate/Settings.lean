import Courier.Bulkhead
import Courier.CircuitBreaker
import Courier.RateLimiter
import Courier.Retry

/-!
# The settings of a gate

A gate stands before one endpoint and joins a bulkhead, a rate limiter, a circuit breaker and a
retry loop. `GateSettings.invalid?` names the first part that cannot work.
-/

set_option autoImplicit false
set_option relaxedAutoImplicit false

namespace Courier

/-- The settings of a gate. -/
structure GateSettings where
  maxAttempts : Nat := 3
  retry : RetryStrategy := .standard
  /-- How long one attempt may take. -/
  sendTimeout : Duration := .ofSecs 10
  breaker : BreakerSettings := {}
  limiter : LimiterSettings := {}
  bulkhead : BulkheadSettings := {}

/-- What is wrong with a retry strategy, if anything. -/
def RetryStrategy.invalid? : RetryStrategy → Option String
  | .constant _ => none
  | .exponential _ _ multiplier jitter =>
    if multiplier < 1.0 then some "multiplier must be >= 1"
    else if 0.0 ≤ jitter ∧ jitter ≤ 1.0 then none
    else some "jitter must be within [0, 1]"

namespace GateSettings

/-- The retry settings that cannot work. -/
def retryInvalid? (s : GateSettings) : Option String :=
  if s.maxAttempts < 1 then some "max_attempts must be >= 1" else s.retry.invalid?

/-- A complaint under the name of the part it is about. -/
def about (part : String) (complaint : Option String) : Option String :=
  complaint.map fun text => part ++ ": " ++ text

/-- What is wrong with the settings, if anything. -/
def invalid? (s : GateSettings) : Option String :=
  about "retry" s.retryInvalid? <|>
  (if s.sendTimeout.isZero then some "send_timeout must be > 0" else none) <|>
  about "circuit_breaker" s.breaker.invalid? <|>
  about "rate_limiter" s.limiter.invalid? <|>
  about "bulkhead" s.bulkhead.invalid?

end GateSettings

end Courier

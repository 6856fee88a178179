import Courier.Decimal.Bits
import Courier.Feedback
import Courier.Gate.Settings
import Courier.Json.Access

/-!
# Gate settings as objects

Settings are read from an object in which every member may be missing; what is missing keeps its
default. They are written with every member, durations in seconds and nanoseconds and doubles by their
bits.
-/

set_option autoImplicit false
set_option relaxedAutoImplicit false

namespace Courier

namespace RetryStrategy

/-- A strategy by its kind; the standard one for any other kind. -/
def ofJson (j : Json) : RetryStrategy :=
  match j.strAt "kind" with
  | "exponential" =>
    .exponential (j.durationAt "initial" (.ofMillis 500)) (j.durationAt "max" (.ofSecs 10))
      (j.floatAt "multiplier" 2.0) (j.floatAt "jitter" 0.0)
  | "constant" => .constant (j.durationAt "delay" .zero)
  | _ => .standard

/-- The object of a strategy. -/
def toJson : RetryStrategy → Json
  | .exponential initial max multiplier jitter =>
    .ofMembers
      [("kind", .string "exponential"), ("initial", initial.toJson), ("max", max.toJson),
       ("multiplier", Decimal.bitsJson multiplier), ("jitter", Decimal.bitsJson jitter)]
  | .constant delay => .ofMembers [("kind", .string "constant"), ("delay", delay.toJson)]

end RetryStrategy

namespace BreakerSettings

/-- The settings that an object says. -/
def ofJson (j : Json) : BreakerSettings :=
  let s : BreakerSettings := {}
  { failureThreshold := j.natAt "failure_threshold" s.failureThreshold
    failureRateThreshold := j.floatAt "failure_rate_threshold" s.failureRateThreshold
    minimumCalls := j.natAt "minimum_calls" s.minimumCalls
    windowSize := j.natAt "window_size" s.windowSize
    waitDuration := j.durationAt "wait_duration" s.waitDuration
    permittedTrials := j.natAt "permitted_half_open_calls" s.permittedTrials
    successThreshold := j.natAt "success_threshold" s.successThreshold }

/-- The object of the settings. -/
def toJson (s : BreakerSettings) : Json :=
  .ofMembers
    [("failure_threshold", .ofNat s.failureThreshold),
     ("failure_rate_threshold", Decimal.bitsJson s.failureRateThreshold),
     ("minimum_calls", .ofNat s.minimumCalls), ("window_size", .ofNat s.windowSize),
     ("wait_duration", s.waitDuration.toJson),
     ("permitted_half_open_calls", .ofNat s.permittedTrials),
     ("success_threshold", .ofNat s.successThreshold)]

end BreakerSettings

namespace LimiterSettings

/-- The settings that an object says. -/
def ofJson (j : Json) : LimiterSettings :=
  let s : LimiterSettings := {}
  { limitForPeriod := j.natAt "limit_for_period" s.limitForPeriod
    refreshPeriod := j.durationAt "refresh_period" s.refreshPeriod
    timeout := j.durationAt "timeout" s.timeout }

/-- The object of the settings. -/
def toJson (s : LimiterSettings) : Json :=
  .ofMembers
    [("limit_for_period", .ofNat s.limitForPeriod), ("refresh_period", s.refreshPeriod.toJson),
     ("timeout", s.timeout.toJson)]

end LimiterSettings

namespace BulkheadSettings

/-- The settings that an object says. -/
def ofJson (j : Json) : BulkheadSettings :=
  let s : BulkheadSettings := {}
  { maxConcurrent := j.natAt "max_concurrent" s.maxConcurrent
    maxWait := j.durationAt "max_wait" s.maxWait }

/-- The object of the settings. -/
def toJson (s : BulkheadSettings) : Json :=
  .ofMembers [("max_concurrent", .ofNat s.maxConcurrent), ("max_wait", s.maxWait.toJson)]

end BulkheadSettings

namespace GateSettings

/-- The settings that an object says. -/
def ofJson (j : Json) : GateSettings :=
  let s : GateSettings := {}
  { maxAttempts := j.natAt "max_attempts" s.maxAttempts
    retry := if j.has "retry" then .ofJson (j.member "retry") else s.retry
    sendTimeout := j.durationAt "send_timeout" s.sendTimeout
    breaker := .ofJson (j.member "circuit_breaker")
    limiter := .ofJson (j.member "rate_limiter")
    bulkhead := .ofJson (j.member "bulkhead") }

/-- The object of the settings. -/
def toJson (s : GateSettings) : Json :=
  .ofMembers
    [("max_attempts", .ofNat s.maxAttempts), ("retry", s.retry.toJson),
     ("send_timeout", s.sendTimeout.toJson), ("circuit_breaker", s.breaker.toJson),
     ("rate_limiter", s.limiter.toJson), ("bulkhead", s.bulkhead.toJson)]

end GateSettings

/-- The feedback that an object says. -/
def Feedback.ofJson (j : Json) : Feedback :=
  let f : Feedback := {}
  { enabled := j.boolAt "enabled" f.enabled
    defaultCooldown := j.durationAt "default_cooldown" f.defaultCooldown }

end Courier

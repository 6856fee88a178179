import Courier.Metrics
import Courier.RateLimiter

/-!
# Feedback from providers

A provider that answers with a rate limit may say how long to wait. If feedback is enabled, the
limiter of the endpoint is throttled for that time, or for a default one, and the signal is reported.
-/

set_option autoImplicit false
set_option relaxedAutoImplicit false

namespace Courier

/-- How rate limits of providers are heeded. -/
structure Feedback where
  enabled : Bool := true
  defaultCooldown : Duration := .ofSecs 30

namespace Feedback

/-- The cooldown for an answer: what the provider asks for, if it asks for any. -/
def cooldownFor (f : Feedback) : Option Duration → Duration
  | some d => if d.isZero then f.defaultCooldown else d
  | none => f.defaultCooldown

/-- Heeds a rate limit: the cooldown, the throttled limiter and the event to report; nothing if
feedback is disabled. -/
def heed (f : Feedback) (resource : String) (limiter : RateLimiter)
    (retryAfter : Option Duration) (wall : Nat) :
    Except Crash (Option (Duration × RateLimiter × Event)) :=
  if f.enabled then
    let cooldown := f.cooldownFor retryAfter
    match limiter.throttle cooldown wall with
    | .error crash => .error crash
    | .ok limiter => .ok (some (cooldown, limiter, .externalRateLimit resource retryAfter))
  else .ok none

/-- The feedback in one line. -/
def summary (f : Feedback) : String :=
  "AdaptiveRateLimitFeedback \x7b enabled: " ++ toString f.enabled ++
    ", default_cooldown: " ++ f.defaultCooldown.debugText ++ ", .. \x7d"

end Feedback

end Courier

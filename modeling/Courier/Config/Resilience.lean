import Courier.Decode.Record
import Courier.Gate.Settings
import Courier.Text.Quoted

/-!
# The resilience section of the configuration

The section gives the settings that every gate has and, for single resources, what is different there. An
override replaces what it mentions; of the retry strategy it replaces the whole.
-/

set_option autoImplicit false
set_option relaxedAutoImplicit false

namespace Courier

/-- The retry strategy as it is written: all numbers beside the kind of strategy. -/
structure RetrySection where
  constant : Bool := false
  initialDelay : Duration := .ofMillis 500
  maxDelay : Duration := .ofMillis 10000
  multiplier : Float := 2.0
  jitter : Float := 0.1

namespace RetrySection

/-- The strategy; a constant one has the initial delay. -/
def strategy (s : RetrySection) : RetryStrategy :=
  if s.constant then .constant s.initialDelay
  else .exponential s.initialDelay s.maxDelay s.multiplier s.jitter

/-- The form of the section. -/
def form : Decode.Form RetrySection where
  title := "a retry section"
  blank := {}
  fields :=
    [Decode.field "strategy" .defaulted
       (Decode.choice [("exponential", false), ("constant", true)])
       fun s b => { s with constant := b },
     Decode.field "initial_delay_ms" .defaulted Decode.natural64
       fun s n => { s with initialDelay := .ofMillis n },
     Decode.field "max_delay_ms" .defaulted Decode.natural64
       fun s n => { s with maxDelay := .ofMillis n },
     Decode.field "multiplier" .defaulted Decode.float fun s x => { s with multiplier := x },
     Decode.field "jitter" .defaulted Decode.float fun s x => { s with jitter := x }]

end RetrySection

/-- The form of the circuit breaker section. -/
def BreakerSettings.form : Decode.Form BreakerSettings where
  title := "a circuit breaker section"
  blank := {}
  fields :=
    [Decode.field "failure_threshold" .defaulted Decode.natural32
       fun s n => { s with failureThreshold := n },
     Decode.field "failure_rate_threshold" .defaulted Decode.float
       fun s x => { s with failureRateThreshold := x },
     Decode.field "minimum_calls" .defaulted Decode.natural32
       fun s n => { s with minimumCalls := n },
     Decode.field "window_size" .defaulted Decode.natural32 fun s n => { s with windowSize := n },
     Decode.field "wait_duration_seconds" .defaulted Decode.natural64
       fun s n => { s with waitDuration := .ofSecs n },
     Decode.field "permitted_half_open_calls" .defaulted Decode.natural32
       fun s n => { s with permittedTrials := n },
     Decode.field "success_threshold" .defaulted Decode.natural32
       fun s n => { s with successThreshold := n }]

/-- The form of the rate limiter section. -/
def LimiterSettings.form : Decode.Form LimiterSettings where
  title := "a rate limiter section"
  blank := {}
  fields :=
    [Decode.field "limit_for_period" .defaulted Decode.natural32
       fun s n => { s with limitForPeriod := n },
     Decode.field "refresh_period_ms" .defaulted Decode.natural64
       fun s n => { s with refreshPeriod := .ofMillis n },
     Decode.field "timeout_ms" .defaulted Decode.natural64
       fun s n => { s with timeout := .ofMillis n }]

/-- The form of the bulkhead section. -/
def BulkheadSettings.form : Decode.Form BulkheadSettings where
  title := "a bulkhead section"
  blank := {}
  fields :=
    [Decode.field "max_concurrent" .defaulted Decode.size fun s n => { s with maxConcurrent := n },
     Decode.field "max_wait_ms" .defaulted Decode.natural64
       fun s n => { s with maxWait := .ofMillis n }]

/-- What is different for one resource. -/
structure ResilienceOverride where
  maxAttempts : Option Nat := none
  sendTimeout : Option Duration := none
  retry : Option RetrySection := none
  failureThreshold : Option Nat := none
  failureRateThreshold : Option Float := none
  minimumCalls : Option Nat := none
  windowSize : Option Nat := none
  waitDuration : Option Duration := none
  permittedTrials : Option Nat := none
  successThreshold : Option Nat := none
  limitForPeriod : Option Nat := none
  refreshPeriod : Option Duration := none
  limiterTimeout : Option Duration := none
  maxConcurrent : Option Nat := none
  maxWait : Option Duration := none

namespace ResilienceOverride

/-- The settings with what is different. -/
def apply (o : ResilienceOverride) (s : GateSettings) : GateSettings where
  maxAttempts := o.maxAttempts.getD s.maxAttempts
  sendTimeout := o.sendTimeout.getD s.sendTimeout
  retry := (o.retry.map RetrySection.strategy).getD s.retry
  breaker :=
    { failureThreshold := o.failureThreshold.getD s.breaker.failureThreshold
      failureRateThreshold := o.failureRateThreshold.getD s.breaker.failureRateThreshold
      minimumCalls := o.minimumCalls.getD s.breaker.minimumCalls
      windowSize := o.windowSize.getD s.breaker.windowSize
      waitDuration := o.waitDuration.getD s.breaker.waitDuration
      permittedTrials := o.permittedTrials.getD s.breaker.permittedTrials
      successThreshold := o.successThreshold.getD s.breaker.successThreshold }
  limiter :=
    { limitForPeriod := o.limitForPeriod.getD s.limiter.limitForPeriod
      refreshPeriod := o.refreshPeriod.getD s.limiter.refreshPeriod
      timeout := o.limiterTimeout.getD s.limiter.timeout }
  bulkhead :=
    { maxConcurrent := o.maxConcurrent.getD s.bulkhead.maxConcurrent
      maxWait := o.maxWait.getD s.bulkhead.maxWait }

/-- A number that may be there. -/
def optionalField {α : Type} (name : String) (decode : Decode.Decoder α)
    (set : ResilienceOverride → Option α → ResilienceOverride) : Decode.Field ResilienceOverride :=
  Decode.field name .omittable (Decode.optional decode) set

/-- A duration that may be there, in milliseconds. -/
def millisField (name : String)
    (set : ResilienceOverride → Option Duration → ResilienceOverride) :
    Decode.Field ResilienceOverride :=
  optionalField name Decode.natural64 fun o n => set o (n.map Duration.ofMillis)

/-- The form of an override. -/
def form : Decode.Form ResilienceOverride where
  title := "a resilience override"
  blank := {}
  fields :=
    [optionalField "max_attempts" Decode.natural32 fun o n => { o with maxAttempts := n },
     millisField "send_timeout_ms" fun o d => { o with sendTimeout := d },
     optionalField "retry" (Decode.record RetrySection.form) fun o r => { o with retry := r },
     optionalField "failure_threshold" Decode.natural32
       fun o n => { o with failureThreshold := n },
     optionalField "failure_rate_threshold" Decode.float
       fun o x => { o with failureRateThreshold := x },
     optionalField "minimum_calls" Decode.natural32 fun o n => { o with minimumCalls := n },
     optionalField "window_size" Decode.natural32 fun o n => { o with windowSize := n },
     optionalField "wait_duration_seconds" Decode.natural64
       fun o n => { o with waitDuration := n.map Duration.ofSecs },
     optionalField "permitted_half_open_calls" Decode.natural32
       fun o n => { o with permittedTrials := n },
     optionalField "success_threshold" Decode.natural32
       fun o n => { o with successThreshold := n },
     optionalField "limit_for_period" Decode.natural32 fun o n => { o with limitForPeriod := n },
     millisField "refresh_period_ms" fun o d => { o with refreshPeriod := d },
     millisField "rate_limiter_timeout_ms" fun o d => { o with limiterTimeout := d },
     optionalField "max_concurrent" Decode.size fun o n => { o with maxConcurrent := n },
     millisField "max_wait_ms" fun o d => { o with maxWait := d }]

end ResilienceOverride

/-- The section. -/
structure ResilienceSection where
  maxAttempts : Nat := 3
  sendTimeout : Duration := .ofSecs 10
  retry : RetrySection := {}
  breaker : BreakerSettings := {}
  limiter : LimiterSettings := {}
  bulkhead : BulkheadSettings := {}
  /-- In the order of resources. -/
  overrides : List (String × ResilienceOverride) := []

namespace ResilienceSection

/-- The settings of a gate without an override. -/
def defaults (s : ResilienceSection) : GateSettings where
  maxAttempts := s.maxAttempts
  retry := s.retry.strategy
  sendTimeout := s.sendTimeout
  breaker := s.breaker
  limiter := s.limiter
  bulkhead := s.bulkhead

/-- The settings of the gate of a resource. -/
def settingsFor (s : ResilienceSection) (resource : String) : GateSettings :=
  match Json.lookup resource s.overrides with
  | some o => o.apply s.defaults
  | none => s.defaults

/-- What is wrong with the settings of some resources, if anything. -/
def overrideInvalid? (s : ResilienceSection) : List String → Option String
  | [] => none
  | resource :: rest =>
    match (s.settingsFor resource).invalid? with
    | some complaint => some ("overrides.\"" ++ resource ++ "\": " ++ complaint)
    | none => s.overrideInvalid? rest

/-- What is wrong with the section, if anything: the defaults come first, then the resources in
order. -/
def invalid? (s : ResilienceSection) : Option String :=
  s.defaults.invalid? <|> s.overrideInvalid? (s.overrides.map Prod.fst)

/-- The form of the section. -/
def form : Decode.Form ResilienceSection where
  title := "a resilience section"
  blank := {}
  fields :=
    [Decode.field "max_attempts" .defaulted Decode.natural32
       fun s n => { s with maxAttempts := n },
     Decode.field "send_timeout_ms" .defaulted Decode.natural64
       fun s n => { s with sendTimeout := .ofMillis n },
     Decode.field "retry" .defaulted (Decode.record RetrySection.form)
       fun s r => { s with retry := r },
     Decode.field "circuit_breaker" .defaulted (Decode.record BreakerSettings.form)
       fun s b => { s with breaker := b },
     Decode.field "rate_limiter" .defaulted (Decode.record LimiterSettings.form)
       fun s l => { s with limiter := l },
     Decode.field "bulkhead" .defaulted (Decode.record BulkheadSettings.form)
       fun s b => { s with bulkhead := b },
     Decode.field "overrides" .defaulted (Decode.table (Decode.record ResilienceOverride.form))
       fun s o => { s with overrides := o }]

end ResilienceSection

end Courier

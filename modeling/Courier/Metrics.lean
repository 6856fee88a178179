import Courier.Delivery.Failure

/-!
# Metrics

What happens on the way of a notification is reported as events. `Metrics` counts them: each event
moves one counter, and a failure also the counter of its reason.
-/

set_option autoImplicit false
set_option relaxedAutoImplicit false

namespace Courier

/-- Something worth counting. -/
inductive Event where
  | attempt (resource : String)
  | success (resource : String)
  | failure (resource : String) (reason : DeliveryFailure)
  | skipped (resource : String)
  | rateLimited (resource : String)
  | bulkheadFull (resource : String)
  | retry (resource : String) (attempt : Nat)
  | deadLetterCreated (resource : String)
  | deadLetterHandlerFailed (resource : String)
  | externalRateLimit (resource : String) (retryAfter : Option Duration)
  | callerRuns
  deriving DecidableEq, Repr

/-- The event of a name; any other name is that of the event without a resource. The reason is that of
a failure, and what the provider asks for belongs to a rate limit of the provider. -/
def Event.ofName (name resource : String) (reason : DeliveryFailure)
    (retryAfter : Option Duration) : Event :=
  match name with
  | "attempt" => .attempt resource
  | "success" => .success resource
  | "failure" => .failure resource reason
  | "skipped" => .skipped resource
  | "rate_limited" => .rateLimited resource
  | "bulkhead_full" => .bulkheadFull resource
  | "retry" => .retry resource 1
  | "dead_letter_created" => .deadLetterCreated resource
  | "dead_letter_handler_failed" => .deadLetterHandlerFailed resource
  | "external_rate_limit" => .externalRateLimit resource retryAfter
  | _ => .callerRuns

/-- Counts of events. -/
structure Metrics where
  attempts : Nat := 0
  successes : Nat := 0
  failures : Nat := 0
  skipped : Nat := 0
  rateLimited : Nat := 0
  bulkheadFull : Nat := 0
  retries : Nat := 0
  deadLettersCreated : Nat := 0
  deadLetterHandlerFailures : Nat := 0
  externalRateLimits : Nat := 0
  callerRuns : Nat := 0
  /-- The failures by the label of their reason, in the order of labels. -/
  failureReasons : List (String × Nat) := []
  deriving DecidableEq, Repr

namespace Metrics

/-- One more failure for a reason. -/
def countReason (reasons : List (String × Nat)) (kind : String) : List (String × Nat) :=
  Json.insertMember kind ((Json.lookup kind reasons).getD 0 + 1) reasons

/-- Counts an event. -/
def record (m : Metrics) : Event → Metrics
  | .attempt _ => { m with attempts := m.attempts + 1 }
  | .success _ => { m with successes := m.successes + 1 }
  | .failure _ reason =>
    { m with
      failures := m.failures + 1
      failureReasons := countReason m.failureReasons reason.kind }
  | .skipped _ => { m with skipped := m.skipped + 1 }
  | .rateLimited _ => { m with rateLimited := m.rateLimited + 1 }
  | .bulkheadFull _ => { m with bulkheadFull := m.bulkheadFull + 1 }
  | .retry .. => { m with retries := m.retries + 1 }
  | .deadLetterCreated _ => { m with deadLettersCreated := m.deadLettersCreated + 1 }
  | .deadLetterHandlerFailed _ =>
    { m with deadLetterHandlerFailures := m.deadLetterHandlerFailures + 1 }
  | .externalRateLimit .. => { m with externalRateLimits := m.externalRateLimits + 1 }
  | .callerRuns => { m with callerRuns := m.callerRuns + 1 }

/-- The counts of some events. -/
def ofEvents (events : List Event) : Metrics := events.foldl record {}

/-- The single counters under their names. -/
def counters (m : Metrics) : List (String × Nat) :=
  [("attempts", m.attempts), ("successes", m.successes), ("failures", m.failures),
   ("skipped", m.skipped), ("rate_limited", m.rateLimited), ("bulkhead_full", m.bulkheadFull),
   ("retries", m.retries), ("dead_letters_created", m.deadLettersCreated),
   ("dead_letter_handler_failures", m.deadLetterHandlerFailures),
   ("external_rate_limits", m.externalRateLimits), ("caller_runs_fallbacks", m.callerRuns)]

/-- The record of all counts. -/
def toJson (m : Metrics) : Json :=
  .ofMembers <|
    (m.counters.map fun c => (c.1, .ofNat c.2)) ++
    [("failure_reasons", .object (m.failureReasons.map fun r => (r.1, .ofNat r.2)))]

end Metrics

end Courier

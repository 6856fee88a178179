import Courier.Gate.SettingsJson
import Courier.Gateway.Basic
import Courier.Gateway.Batch
import Courier.DeadLetter.Replay

/-!
# Outlines

What an operator is shown of the parts of the service and of what became of the work: objects that
hold less than the records, under plain names.
-/

set_option autoImplicit false
set_option relaxedAutoImplicit false

namespace Courier

/-- A type definition and its record. -/
def TypeDefinition.outline (d : TypeDefinition) : Json :=
  .ofMembers
    [("id", .string d.id), ("title", .string d.title),
     ("default_message", .string d.defaultMessage), ("category", .string d.category),
     ("schema_version", .ofOption .string d.schemaVersion), ("json", d.toJson)]

/-- Kind and wording of a failure. -/
def DeliveryFailure.outline (f : DeliveryFailure) : Json :=
  .ofMembers [("kind", .string f.kind), ("text", .string f.message)]

/-- State and counts of a breaker. -/
def CircuitBreaker.outline (b : CircuitBreaker) : Json :=
  .ofMembers
    [("state", .string b.state.name), ("failures", .ofNat b.failures), ("trials", .ofNat b.trials)]

/-- The length of the cooldown that a limiter is under. -/
def RateLimiter.cooldownJson (l : RateLimiter) : Json :=
  .ofOption Duration.toJson l.cooldown

/-- Breaker, free slots and cooldown of a gate. -/
def Gate.outline (g : Gate) : Json :=
  .ofMembers
    [("breaker", g.breaker.outline), ("circuit", .string g.breaker.state.name),
     ("available", .ofNat g.bulkhead.free), ("cooldown", g.limiter.cooldownJson)]

/-- How a call ended; a rejected call has the name of its rejection for a result. -/
def GateOutcome.outline (o : GateOutcome) : Json :=
  let (name, result) : String × Json :=
    match o with
    | .delivered _ r => ("delivered", r.toJson)
    | .failed _ r => ("failed", r.toJson)
    | .rejected r => ("rejected", .string r.name)
  .ofMembers
    [("outcome", .string name), ("attempts", .ofNat o.attempts),
     ("delivered", .bool o.isDelivered), ("result", result),
     ("failure", .ofOption DeliveryFailure.outline o.failure?)]

/-- The counts that are not zero. -/
def Metrics.outline (m : Metrics) : Json :=
  let counts (all : List (String × Nat)) : List (String × Json) :=
    (all.filter fun c => c.2 ≠ 0).map fun c => (c.1, .ofNat c.2)
  .ofMembers <|
    counts m.counters ++
    (if m.failureReasons.isEmpty then []
      else [("failure_reasons", .ofMembers (counts m.failureReasons))])

/-- The states of circuits. -/
def GateRegistry.outline (r : GateRegistry) : Json :=
  .ofMembers (r.circuitStates.map fun c => (c.1, .string c.2.name))

/-- The number of dead letters in each state. -/
def DeadLetterStore.outline (s : DeadLetterStore) : Json :=
  .ofMembers (s.counts.map fun c => (c.1.name, .ofNat c.2))

/-- A report on health, with its verdict and what it is based on in words. -/
def HealthReport.outline (r : HealthReport) : Json :=
  let strings (texts : List String) : Json := .array (texts.map .string)
  .ofMembers
    [("report", r.toJson), ("status", .string r.status.name), ("open", strings r.openCircuits),
     ("circuit_text", strings (r.circuits.map fun c => c.2.name)),
     ("status_text", strings (r.deadLetters.map fun d => d.1.name))]

/-- A transition in words. -/
def Transition.text (t : Transition) : String := t.source.name ++ "->" ++ t.target.name

/-- A dead letter; its times are told only by whether they differ. -/
def DeadLetter.outline (e : DeadLetter) : Json :=
  .ofMembers
    [("id", .string e.id.text), ("type_id", .string e.typeId), ("category", .string e.category),
     ("context", .string e.context), ("target", e.target.toJson),
     ("payload", e.payload.getD .null), ("reason", .string e.reason),
     ("status", .string e.status.name), ("attempts", .ofNat e.attempts),
     ("touched", .bool (e.updatedAt ≠ e.createdAt))]

/-- The report on a delivery. -/
def DeliveryReport.outline (r : DeliveryReport) : Json :=
  .ofMembers
    [("target", r.target.toJson), ("key", .string r.target.resource),
     ("attempts", .ofNat r.attempts), ("delivered", .bool r.isDelivered),
     ("failure", .ofOption DeliveryFailure.outline r.failure),
     ("dead_letter", .ofOption (fun id => .string (EntryId.text id)) r.deadLetter)]

/-- What became of a replay. -/
def ReplayOutcome.outline : ReplayOutcome → Json
  | .resolved attempts => .ofMembers [("resolved", .ofNat attempts)]
  | .abandoned failure => .ofMembers [("abandoned", failure.outline)]

/-- What became of the replays of all pending entries. -/
def ReplaySummary.outline (s : ReplaySummary) : Json :=
  .ofMembers
    [("resolved", .ofNat s.resolved), ("abandoned", .ofNat s.abandoned),
     ("rejected", .ofNat s.rejected)]

/-- How far a batch has come. -/
def BatchResult.outline (r : BatchResult) : Json :=
  .ofMembers
    [("published", .ofNat r.published), ("chunks_completed", .ofNat r.chunks),
     ("total", .ofNat r.total), ("cancelled", .bool r.cancelled)]

/-- The settings of a pool. -/
def PoolSettings.outline (s : PoolSettings) : Json :=
  .ofMembers
    [("mode", .string s.mode.label), ("core_workers", .ofNat s.coreWorkers),
     ("max_workers", .ofNat s.maxWorkers), ("queue_capacity", .ofNat s.queueCapacity),
     ("worker_name_prefix", .string s.workerName), ("keep_alive", s.keepAlive.toJson),
     ("shutdown_timeout", s.shutdownTimeout.toJson)]

/-- The configuration, with the settings of the gates of some resources and of all those that have
settings of their own. -/
def Config.outline (c : Config) (resources : List String) : Json :=
  let names := c.resilience.overrides.map Prod.fst ++ resources
  .ofMembers
    [("pool", c.pool.outline),
     ("batch", .ofMembers
       [("chunk_size", .ofNat c.batch.chunkSize), ("inter_chunk_delay", c.batch.pause.toJson)]),
     ("gate", c.resilience.defaults.toJson),
     ("overrides", .ofMembers (names.map fun r => (r, (c.resilience.settingsFor r).toJson))),
     ("adaptive", .ofMembers
       [("enabled", .bool c.adaptive.enabled),
        ("default_cooldown", c.adaptive.defaultCooldown.toJson)]),
     ("allow_reprocess_abandoned", .bool c.allowAbandoned), ("routing", c.routing.toJson)]

end Courier

import Courier.CircuitBreaker
import Courier.Clock

/-!
# Rehearsing a circuit breaker

Permits are kept under names until they are settled. A breaker does nothing by itself, so its clock only
moves when it is told to.
-/

set_option autoImplicit false
set_option relaxedAutoImplicit false

namespace Courier.Rehearsal

/-- What is done with a permit. -/
inductive Settlement where
  | succeed
  | fail
  | drop
  deriving DecidableEq, Repr

/-- Settles a permit; the transition that this causes comes with it. -/
def Settlement.apply (how : Settlement) (b : CircuitBreaker) (p : CallPermit) (now : Nat) :
    Option Transition × CircuitBreaker :=
  match how with
  | succeed => b.succeed p now
  | fail => b.fail p now
  | drop => (none, b.drop p)

/-- A breaker and the permits that are held. -/
structure Permits where
  clock : Clock := {}
  breaker : CircuitBreaker
  held : List (String × CallPermit) := []

namespace Permits

/-- Asks for a permit and keeps it under a name; an older one of that name is dropped. -/
def acquire (r : Permits) (name : String) : Option CallPermit × Permits :=
  match r.breaker.acquire r.clock.now with
  | (none, breaker) => (none, { r with breaker })
  | (some p, breaker) =>
    (some p,
      { r with
        breaker := (Json.lookup name r.held).elim breaker breaker.drop
        held := Json.insertMember name p r.held })

/-- Settles the permit of a name; none if the name holds none. -/
def settle (r : Permits) (name : String) (how : Settlement) :
    Option (Option Transition) × Permits :=
  match Json.lookup name r.held with
  | none => (none, r)
  | some p =>
    let (transition, breaker) := how.apply r.breaker p r.clock.now
    (some transition, { r with breaker, held := r.held.filter fun e => e.1 ≠ name })

/-- Asks for a permit and settles it at once; none if there was no permit. -/
def call (r : Permits) (how : Settlement) : Option (Option Transition) × Permits :=
  match r.breaker.acquire r.clock.now with
  | (none, breaker) => (none, { r with breaker })
  | (some p, breaker) =>
    let (transition, breaker) := how.apply breaker p r.clock.now
    (some transition, { r with breaker })

/-- Makes several calls in a row. -/
def calls : List Settlement → Permits → List (Option (Option Transition)) × Permits
  | [], r => ([], r)
  | how :: rest, r =>
    let (outcome, r) := r.call how
    let (outcomes, r) := calls rest r
    (outcome :: outcomes, r)

/-- Closes the circuit. -/
def reset (r : Permits) : Permits := { r with breaker := r.breaker.reset r.clock.now }

/-- Lets time pass. -/
def advance (r : Permits) (time : Duration) : Permits :=
  { r with clock := { r.clock with now := r.clock.now + time.nanos } }

end Permits

end Courier.Rehearsal

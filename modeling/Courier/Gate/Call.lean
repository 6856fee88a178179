import Courier.Feedback
import Courier.Gate.Basic
import Courier.Moment
import Courier.Sender
import Courier.Turn

/-!
# Calls through a gate

A call first gets a slot of the bulkhead, then the limiter's admission, then a permit of the breaker.
It sends, and sends again after a delay as long as the failure may pass and attempts are left. A
provider's rate limit throttles the limiter on the way. The permit is settled once, with the outcome of
the last attempt, and the slot is given back at the end, however the call ends.

`GateCall.step` makes one move of a call, or none if the call must wait. `GateCall.cancel` takes back what
a call holds that is given up. `GateCall.deadlines` are the instants at which a waiting call may move by
itself.
-/

set_option autoImplicit false
set_option relaxedAutoImplicit false

namespace Courier

/-- What a call works on. -/
structure GateScene where
  gate : Gate
  sender : Sender
  /-- The events reported so far, the last one first. -/
  events : List Event := []

namespace GateScene

/-- Reports an event. -/
def report (s : GateScene) (e : Event) : GateScene := { s with events := e :: s.events }

/-- Gives the slot back. -/
def leave (s : GateScene) : GateScene :=
  { s with gate := { s.gate with bulkhead := s.gate.bulkhead.release } }

/-- Gives the permit back without an outcome. -/
def dropPermit (s : GateScene) (p : CallPermit) : GateScene :=
  { s with gate := { s.gate with breaker := s.gate.breaker.drop p } }

/-- Settles the permit. -/
def settle (s : GateScene) (p : CallPermit) (success : Bool) (now : Nat) : GateScene :=
  let breaker :=
    if success then (s.gate.breaker.succeed p now).2 else (s.gate.breaker.fail p now).2
  { s with gate := { s.gate with breaker } }

end GateScene

/-- How far a call has come. -/
inductive GateCall.Phase where
  /-- On the way to a slot. -/
  | entering (wait : SlotWait)
  /-- With a slot, on the way to admission. -/
  | pacing (admission : Admission)
  /-- With slot and permit, in an attempt that ends when the reply is due or its time is up. -/
  | sending (permit : CallPermit) (attempt : Nat) (reply : Reply) (due deadline : Nat)
  /-- With slot and permit, between two attempts. -/
  | backingOff (permit : CallPermit) (attempt wake : Nat)

/-- A call. -/
structure GateCall where
  url : String
  payload : Json
  phase : GateCall.Phase := .entering .begun

/-- How a call ends: with an outcome, or in a crash. -/
abbrev GateCall.End := Except Crash GateOutcome

namespace GateCall

/-- A call with more to do, or its end, and what it leaves behind. -/
abbrev Next := Turn GateCall GateCall.End × GateScene

/-- The call is turned away; it gives its slot back if it has one. -/
def reject (s : GateScene) (rejection : Rejection) : Next :=
  let resource := s.gate.resource
  match rejection with
  | .bulkheadFull => (.done (.ok (.rejected .bulkheadFull)), s.report (.bulkheadFull resource))
  | .rateLimited =>
    (.done (.ok (.rejected .rateLimited)), (s.report (.rateLimited resource)).leave)
  | .circuitOpen => (.done (.ok (.rejected .circuitOpen)), (s.report (.skipped resource)).leave)

/-- Begins an attempt. -/
def attempt (m : Moment) (c : GateCall) (s : GateScene) (p : CallPermit) (n : Nat) : Next :=
  let s := s.report (.attempt s.gate.resource)
  let (plan, sender) := s.sender.start m.now c.url c.payload
  (.going { c with
      phase := .sending p n plan.reply (m.deadline plan.delay)
        (m.deadline s.gate.settings.sendTimeout) },
    { s with sender })

/-- Asks the breaker, after the limiter's admission. -/
def admitted (m : Moment) (c : GateCall) (s : GateScene) : Next :=
  match s.gate.breaker.acquire m.now with
  | (none, breaker) => reject { s with gate := { s.gate with breaker } } .circuitOpen
  | (some p, breaker) => attempt m c { s with gate := { s.gate with breaker } } p 1

/-- The call crashes with slot and permit. -/
def crash (s : GateScene) (p : CallPermit) (reason : Crash) : Next :=
  (.done (.error reason), (s.dropPermit p).leave)

/-- Heeds the rate limit of a provider, if the result is one. -/
def heed (f : Feedback) (m : Moment) (s : GateScene) (r : SendResult) : Except Crash GateScene :=
  if r.isRateLimited then
    match f.heed s.gate.resource s.gate.limiter r.retryAfter m.wall with
    | .error reason => .error reason
    | .ok none => .ok s
    | .ok (some (_, limiter, event)) =>
      .ok (({ s with gate := { s.gate with limiter } } : GateScene).report event)
  else .ok s

/-- Goes on after the result of an attempt. -/
def finish (f : Feedback) (m : Moment) (c : GateCall) (s : GateScene) (p : CallPermit) (n : Nat)
    (r : SendResult) : Next :=
  if r.success then
    (.done (.ok (.delivered n r)),
      ((s.settle p true m.now).report (.success s.gate.resource)).leave)
  else
    match heed f m s r with
    | .error reason => crash s p reason
    | .ok s =>
      if r.retryable ∧ n < s.gate.settings.maxAttempts then
        match s.gate.settings.retry.delay n m.spread with
        | .error reason => crash s p reason
        | .ok delay =>
          (.going { c with phase := .backingOff p n (m.deadline delay) },
            s.report (.retry s.gate.resource n))
      else (.done (.ok (.failed n r)), (s.settle p false m.now).leave)

/-- The result of an attempt whose time is up. -/
def timedOut (timeout : Duration) : SendResult :=
  .networkError ("send timed out after " ++ toString timeout.millis ++ "ms")

/-- Makes one move of a call; none if the call must wait. A reply that is due when the time of the
attempt is up still counts. -/
def step (f : Feedback) (m : Moment) (c : GateCall) (s : GateScene) : Option Next :=
  match c.phase with
  | .entering wait =>
    match wait.step m s.gate.bulkhead with
    | none => none
    | some (turn, bulkhead) =>
      let s := { s with gate := { s.gate with bulkhead } }
      match turn with
      | .going wait => some (.going { c with phase := .entering wait }, s)
      | .done true => some (.going { c with phase := .pacing .begun }, s)
      | .done false => some (reject s .bulkheadFull)
  | .pacing admission =>
    match admission.step m s.gate.limiter with
    | none => none
    | some (turn, limiter) =>
      let s := { s with gate := { s.gate with limiter } }
      match turn with
      | .going admission => some (.going { c with phase := .pacing admission }, s)
      | .done (.ok true) => some (admitted m c s)
      | .done (.ok false) => some (reject s .rateLimited)
      | .done (.error reason) => some (.done (.error reason), s.leave)
  | .sending p n reply due deadline =>
    if due ≤ m.now then
      match reply with
      | .crash reason => some (crash s p reason)
      | .result r => some (finish f m c s p n r)
    else if deadline ≤ m.now then
      some (finish f m c s p n (timedOut s.gate.settings.sendTimeout))
    else none
  | .backingOff p n wake => if wake ≤ m.now then some (attempt m c s p (n + 1)) else none

/-- Takes back what a call holds that is given up. -/
def cancel (c : GateCall) (s : GateScene) : GateScene :=
  match c.phase with
  | .entering wait =>
    { s with gate := { s.gate with bulkhead := wait.cancel s.gate.bulkhead } }
  | .pacing .. => s.leave
  | .sending p .. => (s.dropPermit p).leave
  | .backingOff p .. => (s.dropPermit p).leave

/-- The instants at which a call that waits may move by itself. -/
def deadlines (c : GateCall) : List Nat :=
  match c.phase with
  | .entering wait => wait.deadlines
  | .pacing admission => admission.deadlines
  | .sending _ _ _ due deadline => [due, deadline]
  | .backingOff _ _ wake => [wake]

end GateCall

end Courier

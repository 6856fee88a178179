import Courier.Depot

/-!
# Deliveries

A delivery takes a notification to one target: it renders the payload, finds the sender, and calls it
through the gate of the target. However it fails, the failure is reported and leaves a dead letter;
a delivery that crashes fails like any other, as if it had not got anywhere.
-/

set_option autoImplicit false
set_option relaxedAutoImplicit false

namespace Courier

/-- What became of a delivery. -/
structure DeliveryReport where
  target : Target
  attempts : Nat
  failure : Option DeliveryFailure
  /-- The dead letter that it left. -/
  deadLetter : Option EntryId
  deriving DecidableEq, Repr

/-- The provider took the payload. -/
def DeliveryReport.isDelivered (r : DeliveryReport) : Bool := r.failure.isNone

/-- A delivery under way. -/
structure Delivery where
  notification : Notification
  target : Target
  /-- The payload and the call with it, once there is one. -/
  call : Option GateCall := none

namespace Delivery

/-- A delivery with more to do, or its report. -/
abbrev Next := Turn Delivery DeliveryReport × Depot

/-- Ends a delivery without success. -/
def fail (t : Delivery) (d : Depot) (payload : Option Json) (failure : DeliveryFailure)
    (attempts : Nat) : Next :=
  let resource := t.target.resource
  let m := d.moment
  let d := d.tick.report (.failure resource failure)
  let entry := DeadLetter.new m t.notification t.target payload failure.message attempts
  match d.letters.store entry with
  | (.ok id, letters) =>
    (.done ⟨t.target, attempts, some failure, some id⟩,
      ({ d with letters } : Depot).report (.deadLetterCreated resource))
  | (.error _, letters) =>
    (.done ⟨t.target, attempts, some failure, none⟩,
      ({ d with letters } : Depot).report (.deadLetterHandlerFailed resource))

/-- Ends a delivery that crashed. -/
def crash (t : Delivery) (d : Depot) (reason : Crash) : Next :=
  t.fail d none (.crashed reason.message) 0

/-- Begins a delivery. -/
def start (t : Delivery) (d : Depot) : Next :=
  match d.render t.notification t.target.platform with
  | .error reason => t.crash d reason
  | .ok (.error failure) => t.fail d none failure 0
  | .ok (.ok payload) =>
    if (d.senders.get? t.target.platform).isNone then t.fail d (some payload) .noSender 0
    else
      match d.gates.gate t.target.resource with
      | .error reason => t.crash d reason
      | .ok (_, gates) =>
        (.going { t with call := some { url := t.target.url, payload } }, { d with gates })

/-- Ends a delivery whose call has ended. -/
def finish (t : Delivery) (d : Depot) (payload : Json) : GateCall.End → Next
  | .error reason => t.crash d reason
  | .ok outcome =>
    match outcome.failure? with
    | none => (.done ⟨t.target, outcome.attempts, none, none⟩, d)
    | some failure => t.fail d (some payload) failure outcome.attempts

/-- Makes one move of a delivery; none if it must wait. -/
def step (t : Delivery) (d : Depot) : Option Next :=
  match t.call with
  | none => some (t.start d)
  | some c =>
    match d.call t.target.resource t.target.platform c with
    | none => none
    | some (.going c, d) => some (.going { t with call := some c }, d)
    | some (.done result, d) => some (t.finish d c.payload result)

/-- Takes back what a delivery holds that is given up. -/
def cancel (t : Delivery) (d : Depot) : Depot :=
  match t.call with
  | none => d
  | some c => d.cancelCall t.target.resource t.target.platform c

/-- The instants at which a waiting delivery may move by itself. -/
def deadlines (t : Delivery) : List Nat :=
  match t.call with
  | none => []
  | some c => c.deadlines

end Delivery

end Courier

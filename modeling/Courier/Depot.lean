import Courier.Clock
import Courier.DeadLetter.Store
import Courier.Format.Registry
import Courier.Gate.Call
import Courier.Gate.Registry
import Courier.Routing

/-!
# The depot

What deliveries and replays work on and share: types, formatters, senders, gates, routes and dead
letters, a clock, and the events reported so far. `render` makes the payload of a notification for a
platform; `call` moves a call through the gate of a resource to the sender of a platform.
-/

set_option autoImplicit false
set_option relaxedAutoImplicit false

namespace Courier

/-- What deliveries work on. -/
structure Depot where
  clock : Clock := {}
  types : TypeRegistry := {}
  formatters : FormatterRegistry := {}
  senders : SenderRegistry := {}
  gates : GateRegistry
  routing : RoutingTable := {}
  letters : DeadLetterStore := {}
  /-- Abandoned dead letters may be replayed. -/
  allowAbandoned : Bool := false
  /-- Someone listens to events. -/
  observed : Bool := true
  /-- The events reported to the listener, the last one first. -/
  events : List Event := []

namespace Depot

/-- The present moment. -/
def moment (d : Depot) : Moment := d.clock.moment

/-- The depot after a moment was handed out. -/
def tick (d : Depot) : Depot := { d with clock := d.clock.tick }

/-- Reports an event. -/
def report (d : Depot) (e : Event) : Depot :=
  if d.observed then { d with events := e :: d.events } else d

/-- The counts of the events reported. -/
def metrics (d : Depot) : Metrics := .ofEvents d.events.reverse

/-- Why a notification is not delivered that a formatter refuses. -/
def refusal (e : FormatError) : DeliveryFailure :=
  if e.isContextMismatch then .contextMismatch e.message else .formatFailed e.message

/-- The payload of a notification for a platform, which is not empty. -/
def render (d : Depot) (n : Notification) (platform : String) :
    Except Crash (Except DeliveryFailure Json) :=
  match d.formatters.resolve platform n.typeId with
  | none => .ok (.error .noFormatter)
  | some formatter =>
    match formatter.format d.types n with
    | .crashed crash => .error crash
    | .refused e => .ok (.error (refusal e))
    | .payload payload =>
      .ok (if isEmptyPayload payload then .error .emptyPayload else .ok payload)

/-- Works on the gate of a resource and the sender of a platform. -/
def onScene {α : Type} (d : Depot) (resource platform : String)
    (work : GateScene → Option (α × GateScene)) : Option (α × Depot) :=
  match d.gates.get? resource, d.senders.get? platform with
  | some gate, some sender =>
    match work { gate, sender } with
    | none => none
    | some (a, scene) =>
      let d :=
        { d with gates := d.gates.set scene.gate, senders := d.senders.set platform scene.sender }
      some (a, scene.events.reverse.foldl report d)
  | _, _ => none

/-- Makes one move of a call; none if it must wait. -/
def call (d : Depot) (resource platform : String) (c : GateCall) :
    Option (Turn GateCall GateCall.End × Depot) :=
  d.tick.onScene resource platform (c.step d.gates.feedback d.moment)

/-- Gives up a call. -/
def cancelCall (d : Depot) (resource platform : String) (c : GateCall) : Depot :=
  match d.onScene resource platform fun s => some ((), c.cancel s) with
  | some ((), d) => d
  | none => d

end Depot

end Courier

import Courier.Delivery.Run

/-!
# Dispatching

A dispatch takes a notification to all its targets at the same time. It ends when every delivery has,
with their reports in the order of the targets.

`Dispatch.stepAt` makes one move of one of the deliveries, and `Dispatch.stepOne` one move of the dispatch
with it. `Dispatch.step` gives each of the deliveries its turn, in order, until it must wait.
-/

set_option autoImplicit false
set_option relaxedAutoImplicit false

namespace Courier

/-- A dispatch under way: a notification that waits, or its deliveries. -/
inductive Dispatch where
  | pending (notification : Notification)
  | delivering (deliveries : List (Turn Delivery DeliveryReport))

namespace Dispatch

/-- The reports, if all deliveries have ended. -/
def reports? : List (Turn Delivery DeliveryReport) → Option (List DeliveryReport)
  | [] => some []
  | .going _ :: _ => none
  | .done report :: rest => (reports? rest).map (report :: ·)

/-- Finds the targets. -/
def start (n : Notification) (d : Depot) : List (Turn Delivery DeliveryReport) :=
  (d.routing.resolve n.typeId n.category).map fun target =>
    .going { notification := n, target }

/-- Makes one move of the delivery at a place; none if it has ended or must wait. -/
def stepAt : Nat → List (Turn Delivery DeliveryReport) → Depot →
    Option (List (Turn Delivery DeliveryReport) × Depot)
  | _, [], _ => none
  | 0, .done _ :: _, _ => none
  | 0, .going t :: rest, d => (t.step d).map fun (t, d) => (t :: rest, d)
  | place + 1, t :: rest, d => (stepAt place rest d).map fun (rest, d) => (t :: rest, d)

/-- Moves one delivery until it ends or must wait; true if it moved. -/
def runOne : Nat → Bool → Turn Delivery DeliveryReport → Depot →
    Bool × Turn Delivery DeliveryReport × Depot
  | 0, moved, t, d => (moved, t, d)
  | _, moved, .done report, d => (moved, .done report, d)
  | rounds + 1, moved, .going t, d =>
    match t.step d with
    | none => (moved, .going t, d)
    | some (t, d) => runOne rounds true t d

/-- Gives each delivery its turn. -/
def runAll (rounds : Nat) : List (Turn Delivery DeliveryReport) → Depot →
    Bool × List (Turn Delivery DeliveryReport) × Depot
  | [], d => (false, [], d)
  | t :: rest, d =>
    let (moved, t, d) := runOne rounds false t d
    let (others, rest, d) := runAll rounds rest d
    (moved || others, t :: rest, d)

/-- More moves than a delivery makes at one instant. -/
def patience : Nat := Nat.pow 2 62

/-- Gives each delivery its turn; none if no delivery can move. -/
def step (t : Dispatch) (d : Depot) :
    Option (Turn Dispatch (List DeliveryReport) × Depot) :=
  match t with
  | .pending n => some (.going (.delivering (start n d)), d)
  | .delivering deliveries =>
    match reports? deliveries with
    | some reports => some (.done reports, d)
    | none =>
      match runAll patience deliveries d with
      | (true, deliveries, d) => some (.going (.delivering deliveries), d)
      | (false, _, _) => none

/-- Makes one move of a dispatch, or of its delivery at a place; none if that must wait. -/
def stepOne (place : Nat) (t : Dispatch) (d : Depot) :
    Option (Turn Dispatch (List DeliveryReport) × Depot) :=
  match t with
  | .pending n => some (.going (.delivering (start n d)), d)
  | .delivering deliveries =>
    match reports? deliveries with
    | some reports => some (.done reports, d)
    | none =>
      (stepAt place deliveries d).map fun (deliveries, d) => (.going (.delivering deliveries), d)

/-- Takes back what the deliveries hold that are given up. -/
def cancel (t : Dispatch) (d : Depot) : Depot :=
  match t with
  | .pending _ => d
  | .delivering deliveries =>
    deliveries.foldl (fun d t =>
      match t with
      | .going t => t.cancel d
      | .done _ => d) d

/-- The instants at which a waiting dispatch may move by itself. -/
def deadlines : Dispatch → List Nat
  | .pending _ => []
  | .delivering deliveries =>
    deliveries.flatMap fun
      | .going t => t.deadlines
      | .done _ => []

end Dispatch

end Courier

import Courier.Bulkhead
import Courier.Schedule

/-!
# Rehearsing a bulkhead

A rehearsal plays steps on a part of the service and on a clock of its own: no time passes but the time
that tasks wait for. Here the part is a bulkhead whose slots are held under names.
-/

set_option autoImplicit false
set_option relaxedAutoImplicit false

namespace Courier.Rehearsal

/-- A wait for a slot that has ended. -/
structure SlotReport where
  slot : String
  granted : Bool
  time : Nat

/-- A bulkhead and the names under which its slots are held. -/
structure SlotRoom where
  clock : Clock := {}
  bulkhead : Bulkhead
  holders : List String := []
  /-- The reported waits that have ended, the last one first. -/
  reports : List SlotReport := []

/-- What goes on in the room. -/
inductive SlotTask where
  | wait (slot : String) (reported : Bool) (wait : SlotWait)
  | releaseAt (slot : String) (instant : Nat)

namespace SlotRoom

/-- Gives the slot of a name back; false if the name holds none. -/
def release (r : SlotRoom) (slot : String) : Bool × SlotRoom :=
  if slot ∈ r.holders then
    (true, { r with holders := r.holders.erase slot, bulkhead := r.bulkhead.release })
  else (false, r)

/-- Keeps a slot under a name; an older one under that name is given back. -/
def keep (r : SlotRoom) (slot : String) : SlotRoom :=
  let r := (r.release slot).2
  { r with holders := slot :: r.holders }

/-- Ends a wait. -/
def close (r : SlotRoom) (slot : String) (reported granted : Bool) : SlotRoom :=
  let r := if granted then r.keep slot else r
  if reported then { r with reports := ⟨slot, granted, r.clock.now⟩ :: r.reports } else r

/-- Makes one move of a task; none if it must wait. -/
def step (t : SlotTask) (r : SlotRoom) : Option (Turn SlotTask Bool × SlotRoom) :=
  match t with
  | .wait slot reported wait =>
    match wait.step r.clock.moment r.bulkhead with
    | none => none
    | some (.going wait, bulkhead) =>
      some (.going (.wait slot reported wait), { r with bulkhead })
    | some (.done granted, bulkhead) =>
      some (.done granted, ({ r with bulkhead } : SlotRoom).close slot reported granted)
  | .releaseAt slot instant =>
    if instant ≤ r.clock.now then some (.done true, (r.release slot).2) else none

/-- The instants at which a waiting task may move by itself. -/
def deadlines : SlotTask → List Nat
  | .wait _ _ wait => wait.deadlines
  | .releaseAt _ instant => [instant]

/-- How the tasks of the room move. -/
def machine : Machine SlotRoom (Turn SlotTask Bool) :=
  .ofProcess step deadlines SlotRoom.clock fun r clock => { r with clock }

end SlotRoom

/-- A rehearsal of a bulkhead. -/
abbrev Slots := Run SlotRoom (Turn SlotTask Bool)

namespace Slots

/-- Waits for a slot and keeps it under a name. -/
def acquire (s : Slots) (slot : String) : Bool × Slots :=
  let (ended, s) := Schedule.await SlotRoom.machine s [(.going (.wait slot false .begun), none)]
  (ended.any fun a => a.result? = some true, s)

/-- Lets several waits begin in order; each is reported when it ends. -/
def acquireAll (s : Slots) (slots : List String) : Slots :=
  Schedule.start s (slots.map fun slot => .going (.wait slot true .begun))

/-- Gives the slot of a name back. -/
def release (s : Slots) (slot : String) : Bool × Slots :=
  let (held, world) := s.world.release slot
  (held, { s with world })

/-- Gives the slot of a name back after some time. -/
def releaseAfter (s : Slots) (slot : String) (time : Duration) : Slots :=
  Schedule.start s [.going (.releaseAt slot (s.world.clock.now + time.nanos))]

/-- Lets all tasks move at this instant. -/
def settle (s : Slots) : Slots := Schedule.rest SlotRoom.machine s

/-- Lets time pass. -/
def advance (s : Slots) (time : Duration) : Slots := Schedule.advance SlotRoom.machine s time

/-- The reports since the last time, and the rehearsal without them. -/
def takeReports (s : Slots) : List SlotReport × Slots :=
  (s.world.reports, { s with world := { s.world with reports := [] } })

end Slots

end Courier.Rehearsal

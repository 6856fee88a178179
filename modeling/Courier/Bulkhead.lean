import Courier.Crash
import Courier.Moment
import Courier.Turn

/-!
# Bulkheads

A bulkhead bounds how many calls are under way at a time. A call takes a slot or, if the settings
allow it, waits for one in line. A slot that is given back goes to the first in line, who need not
have noticed yet: such a slot is granted to a ticket until its holder claims it.

`SlotWait` is a call on its way to a slot.
-/

set_option autoImplicit false
set_option relaxedAutoImplicit false

namespace Courier

/-- The settings of a bulkhead. -/
structure BulkheadSettings where
  maxConcurrent : Nat := 10
  /-- How long a call waits for a slot. -/
  maxWait : Duration := .zero

/-- What is wrong with the settings, if anything. -/
def BulkheadSettings.invalid? (s : BulkheadSettings) : Option String :=
  if s.maxConcurrent < 1 then some "max_concurrent must be >= 1" else none

/-- A bulkhead. -/
structure Bulkhead where
  maxWait : Duration
  /-- The slots that nobody has. -/
  free : Nat
  /-- The tickets of those in line. -/
  queue : List Nat := []
  /-- The tickets to which a slot was given that is not claimed yet. -/
  granted : List Nat := []
  /-- The tickets handed out so far. -/
  issued : Nat := 0

namespace Bulkhead

/-- A bulkhead with all slots free. -/
def new (s : BulkheadSettings) : Except Crash Bulkhead :=
  if Crash.maxSlots < s.maxConcurrent then .error .tooManySlots
  else .ok { maxWait := s.maxWait, free := s.maxConcurrent }

/-- Takes a free slot. -/
def take? (b : Bulkhead) : Option Bulkhead :=
  match b.free with
  | 0 => none
  | free + 1 => some { b with free }

/-- Gets in line; the ticket comes with it. -/
def enqueue (b : Bulkhead) : Nat × Bulkhead :=
  (b.issued, { b with queue := b.queue ++ [b.issued], issued := b.issued + 1 })

/-- Gives a slot back: to the first in line, or to nobody. -/
def release (b : Bulkhead) : Bulkhead :=
  match b.queue with
  | [] => { b with free := b.free + 1 }
  | ticket :: rest => { b with queue := rest, granted := ticket :: b.granted }

/-- Claims the slot granted to a ticket. -/
def claim? (b : Bulkhead) (ticket : Nat) : Option Bulkhead :=
  if ticket ∈ b.granted then some { b with granted := b.granted.erase ticket } else none

/-- Gives up a ticket. A slot granted to it is given back. -/
def abandon (b : Bulkhead) (ticket : Nat) : Bulkhead :=
  match b.claim? ticket with
  | some b => b.release
  | none => { b with queue := b.queue.erase ticket }

end Bulkhead

/-- A call on its way to a slot. -/
inductive SlotWait where
  | begun
  /-- In line until a slot is granted or a deadline has passed. -/
  | inLine (ticket deadline : Nat)
  deriving DecidableEq, Repr

namespace SlotWait

/-- Makes one move; none if the call must wait. It ends with whether the call has a slot. A slot
granted when the deadline has come still counts. -/
def step (m : Moment) (w : SlotWait) (b : Bulkhead) : Option (Turn SlotWait Bool × Bulkhead) :=
  match w with
  | .begun =>
    match b.take? with
    | some b => some (.done true, b)
    | none =>
      if b.maxWait.isZero then some (.done false, b)
      else
        let (ticket, b) := b.enqueue
        some (.going (.inLine ticket (m.deadline b.maxWait)), b)
  | .inLine ticket deadline =>
    match b.claim? ticket with
    | some b => some (.done true, b)
    | none => if deadline ≤ m.now then some (.done false, b.abandon ticket) else none

/-- Gives up waiting. -/
def cancel (w : SlotWait) (b : Bulkhead) : Bulkhead :=
  match w with
  | .begun => b
  | .inLine ticket _ => b.abandon ticket

/-- The instants at which a waiting call may move by itself. -/
def deadlines : SlotWait → List Nat
  | .begun => []
  | .inLine _ deadline => [deadline]

end SlotWait

end Courier

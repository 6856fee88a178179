import Courier.Pool.Basic

/-!
# Shutting a pool down

A shutdown closes the pool and waits until all its jobs and workers are gone, at most for the time the
settings give it. It ends with whether they are.
-/

set_option autoImplicit false
set_option relaxedAutoImplicit false

namespace Courier

/-- A shutdown under way. -/
inductive Shutdown where
  | begun
  | draining (deadline : Nat)

namespace Shutdown

variable {Job : Type}

/-- Makes one move of a shutdown; none if it must wait. -/
def step (now : Moment) (t : Shutdown) (p : Pool Job) : Option (Turn Shutdown Bool × Pool Job) :=
  match t with
  | .begun => some (.going (.draining (now.deadline p.settings.shutdownTimeout)), p.close)
  | .draining deadline =>
    if p.isDrained then some (.done true, p)
    else if deadline ≤ now.now then some (.done false, p)
    else none

/-- The instants at which a waiting shutdown may move by itself. -/
def deadlines : Shutdown → List Nat
  | .begun => []
  | .draining deadline => [deadline]

end Shutdown

end Courier

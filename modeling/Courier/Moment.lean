import Courier.Duration
import Courier.EntryId
import Courier.Timestamp.Basic

/-!
# Moments

A step of the service may read the clocks and draw lots, and nothing else of the world around it.
What it would read is handed to it as a moment: the running clock that all waiting goes by, the
steady clock of the rate limits, the time of day, an identifier that was never given out, and a
number drawn from the interval from -1 to 1 for spreading delays.

A wait that begins at a moment ends at a deadline of the running clock. The clock of deadlines ends
before `2 ^ 63` seconds; a wait that would end later ends after thirty years.
-/

set_option autoImplicit false
set_option relaxedAutoImplicit false

namespace Courier

/-- What a step reads off the world around it. -/
structure Moment where
  /-- The running clock, in nanoseconds. -/
  now : Nat
  /-- The clock of the rate limits, in nanoseconds. -/
  wall : Nat
  stamp : Timestamp
  freshId : EntryId
  /-- Not below -1 and below 1. -/
  spread : Float

namespace Moment

/-- The end of the running clock, in nanoseconds. -/
def clockEnd : Nat := Nat.pow 2 63 * Duration.nanosPerSecond

/-- The wait that stands for one beyond the end of the clock. -/
def farFuture : Duration := .ofSecs (86400 * 365 * 30)

/-- The end of a wait that begins now. -/
def deadline (m : Moment) (wait : Duration) : Nat :=
  if m.now + wait.nanos < clockEnd then m.now + wait.nanos else m.now + farFuture.nanos

end Moment

end Courier

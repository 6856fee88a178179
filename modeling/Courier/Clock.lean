import Courier.Moment

/-!
# Clocks

A clock hands out moments. The running clock and the clock of the rate limits stand still until they
are moved; the time of day goes on by a nanosecond with each moment that is handed out, and no
identifier comes twice.
-/

set_option autoImplicit false
set_option relaxedAutoImplicit false

namespace Courier

/-- A source of moments. -/
structure Clock where
  /-- The running clock, in nanoseconds. -/
  now : Nat := 0
  /-- The clock of the rate limits, in nanoseconds. -/
  wall : Nat := 0
  /-- The number of moments handed out. -/
  ticks : Nat := 0
  /-- The time of day at the beginning: the first of June 2026. -/
  origin : Timestamp := ⟨1780272000, 0⟩
  /-- The draw of each moment. -/
  draw : Nat → Float := fun _ => 0.0

namespace Clock

/-- The identifiers handed out lie above this one. -/
def idBase : Nat := 0x019a00000000700080000000 * Nat.pow 2 32

/-- The present moment. -/
def moment (c : Clock) : Moment where
  now := c.now
  wall := c.wall
  stamp := c.origin.addNanos c.ticks
  freshId := ⟨idBase + c.ticks⟩
  spread := c.draw c.ticks

/-- Some time passes on the clock of the rate limits. -/
def sleepWall (c : Clock) (time : Duration) : Clock := { c with wall := c.wall + time.nanos }

/-- The clock after a moment was handed out. -/
def tick (c : Clock) : Clock := { c with ticks := c.ticks + 1 }

end Clock

end Courier

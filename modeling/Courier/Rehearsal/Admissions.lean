import Courier.Feedback
import Courier.Schedule

/-!
# Rehearsing a rate limiter

Callers ask a limiter for admission, one after the other, on a clock of its own, and rate limits of the
provider are heeded as the feedback says.
-/

set_option autoImplicit false
set_option relaxedAutoImplicit false

namespace Courier.Rehearsal

/-- A limiter and its clock. -/
structure LimiterRoom where
  clock : Clock := {}
  limiter : RateLimiter

namespace LimiterRoom

/-- Makes one move of a caller; none if it must wait. -/
def step (a : Admission) (r : LimiterRoom) :
    Option (Turn Admission (Except Crash Bool) × LimiterRoom) :=
  (a.step r.clock.moment r.limiter).map fun (turn, limiter) => (turn, { r with limiter })

/-- How callers move. -/
def machine : Machine LimiterRoom (Turn Admission (Except Crash Bool)) :=
  .ofProcess step Admission.deadlines LimiterRoom.clock fun r clock => { r with clock }

end LimiterRoom

/-- A rehearsal of a limiter. -/
structure Admissions where
  /-- The name of the resource that is limited. -/
  name : String
  feedback : Feedback
  run : Run LimiterRoom (Turn Admission (Except Crash Bool))
  /-- The rate limits of the provider that were heeded. -/
  heeded : Nat := 0

namespace Admissions

/-- A rehearsal of a fresh limiter. -/
def new (name : String) (settings : LimiterSettings) (feedback : Feedback) :
    Except Crash Admissions :=
  match RateLimiter.new settings with
  | .error crash => .error crash
  | .ok limiter => .ok { name, feedback, run := { world := { limiter } } }

/-- The limiter. -/
def limiter (r : Admissions) : RateLimiter := r.run.world.limiter

/-- The clock. -/
def clock (r : Admissions) : Clock := r.run.world.clock

/-- Puts another limiter in the place of the one that is there. -/
def put (r : Admissions) (limiter : RateLimiter) : Admissions :=
  { r with run := { r.run with world := { r.run.world with limiter } } }

/-- Asks for admission some times in a row, up to the first crash. -/
def ask : Nat → Admissions → Except Crash (List Bool) × Admissions
  | 0, r => (.ok [], r)
  | times + 1, r =>
    let (ended, run) := Schedule.await LimiterRoom.machine r.run [(.going .begun, none)]
    match ended.filterMap Awaited.result? with
    | .ok admitted :: _ =>
      let (rest, r) := ask times { r with run }
      (rest.map (admitted :: ·), r)
    | .error crash :: _ => (.error crash, { r with run })
    | [] => (.ok [], { r with run })

/-- Throttles the limiter. -/
def throttle (r : Admissions) (cooldown : Duration) : Except Crash Unit × Admissions :=
  match r.limiter.throttle cooldown r.clock.wall with
  | .error crash => (.error crash, r)
  | .ok limiter => (.ok (), r.put limiter)

/-- Ends the throttling that has run out; true if there was one. -/
def restore (r : Admissions) : Bool × Admissions :=
  let (ended, limiter) := r.limiter.restore
  (ended, r.put limiter)

/-- Heeds a rate limit of the provider; the cooldown comes with it if feedback is enabled. -/
def heed (r : Admissions) (retryAfter : Option Duration) :
    Except Crash (Option Duration) × Admissions :=
  match r.feedback.heed r.name r.limiter retryAfter r.clock.wall with
  | .error crash => (.error crash, r)
  | .ok none => (.ok none, r)
  | .ok (some (cooldown, limiter, _)) =>
    (.ok (some cooldown), { r.put limiter with heeded := r.heeded + 1 })

/-- Limiter and feedback, each in one line. -/
def summaries (r : Admissions) : List String := [r.limiter.summary r.name, r.feedback.summary]

/-- Lets time pass. -/
def advance (r : Admissions) (time : Duration) : Admissions :=
  { r with run := Schedule.advance LimiterRoom.machine r.run time }

/-- Lets time pass on the clock of the rate limits. -/
def sleepWall (r : Admissions) (time : Duration) : Admissions :=
  { r with
    run := { r.run with
      world := { r.run.world with clock := r.clock.sleepWall time } } }

end Admissions

end Courier.Rehearsal

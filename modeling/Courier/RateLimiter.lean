import Courier.Moment
import Courier.Text.Quoted
import Courier.TokenBucket
import Courier.Turn

/-!
# Rate limiters

A limiter admits a number of calls per period. A provider that complains overrides it: for a
cooldown it admits nothing, and afterwards it starts afresh with its own quota. A caller may wait
for admission; it then polls the limiter until a deadline. `Admission` is such a caller.
-/

set_option autoImplicit false
set_option relaxedAutoImplicit false

namespace Courier

/-- The settings of a limiter. -/
structure LimiterSettings where
  limitForPeriod : Nat := 10
  refreshPeriod : Duration := .ofSecs 1
  /-- How long a call waits for admission. -/
  timeout : Duration := .zero

namespace LimiterSettings

/-- What is wrong with the settings, if anything. -/
def invalid? (s : LimiterSettings) : Option String :=
  if s.limitForPeriod < 1 then some "limit_for_period must be >= 1"
  else if s.refreshPeriod.isZero then some "refresh_period must be > 0"
  else none

/-- A full bucket of the configured quota. A period too short to be divided among the calls counts
as a second. -/
def bucket (s : LimiterSettings) : Except Crash TokenBucket :=
  let burst := max s.limitForPeriod 1
  let period := s.refreshPeriod.nanos / burst
  TokenBucket.full (if period = 0 then Duration.nanosPerSecond / burst else period) burst

end LimiterSettings

/-- A limiter. -/
structure RateLimiter where
  settings : LimiterSettings
  /-- The full bucket of the configured quota. -/
  fresh : TokenBucket
  bucket : TokenBucket
  /-- The cooldown in force. -/
  cooldown : Option Duration := none
  /-- When the cooldown ends, on the clock of the limits. -/
  restoreAt : Option Nat := none

namespace RateLimiter

/-- A limiter with its full quota. -/
def new (s : LimiterSettings) : Except Crash RateLimiter := do
  let bucket ← s.bucket
  return { settings := s, fresh := bucket, bucket }

/-- Lifts the cooldown in force; true if there was one. -/
def restore (l : RateLimiter) : Bool × RateLimiter :=
  match l.cooldown with
  | none => (false, { l with restoreAt := none })
  | some _ => (true, { l with bucket := l.fresh, cooldown := none, restoreAt := none })

/-- Lifts a cooldown that has ended. -/
def refresh (l : RateLimiter) (wall : Nat) : RateLimiter :=
  match l.restoreAt with
  | some ends => if ends ≤ wall then l.restore.2 else l
  | none => l

/-- Asks once for admission. -/
def poll (l : RateLimiter) (wall : Nat) : Bool × RateLimiter :=
  let l := l.refresh wall
  match l.bucket.take? wall with
  | some bucket => (true, { l with bucket })
  | none => (false, l)

/-- Admits nothing for a cooldown. No cooldown changes nothing. -/
def throttle (l : RateLimiter) (cooldown : Duration) (wall : Nat) : Except Crash RateLimiter :=
  if cooldown.isZero then .ok l
  else
    match TokenBucket.full cooldown.nanos 1 with
    | .error crash => .error crash
    | .ok bucket =>
      .ok
        { l with
          bucket := (bucket.take? wall).getD bucket
          cooldown := some cooldown
          restoreAt := some (wall + cooldown.nanos) }

/-- The limiter in one line. -/
def summary (l : RateLimiter) (name : String) : String :=
  "EndpointRateLimiter \x7b name: " ++ Text.quote name ++
    ", config: RateLimiterConfig \x7b limit_for_period: " ++ toString l.settings.limitForPeriod ++
    ", refresh_period: " ++ l.settings.refreshPeriod.debugText ++
    ", timeout: " ++ l.settings.timeout.debugText ++
    " \x7d, cooldown: " ++
    (match l.cooldown with
      | none => "None"
      | some cooldown => "Some(" ++ cooldown.debugText ++ ")") ++
    ", .. \x7d"

end RateLimiter

/-- A call on its way to admission. -/
inductive Admission where
  | begun
  /-- Between two polls. -/
  | polling (wake deadline : Nat)
  deriving DecidableEq, Repr

namespace Admission

/-- The longest time between two polls. -/
def pollInterval : Duration := .ofMillis 100

/-- The instant until which a caller who asks now waits for admission. -/
def deadline (now : Nat) (timeout : Duration) : Except Crash Nat :=
  if now + timeout.nanos < Moment.clockEnd then .ok (now + timeout.nanos)
  else .error .deadlineTooFar

/-- When a caller who was refused asks again, if it still waits. -/
def nextPoll? (now deadline : Nat) : Option Nat :=
  if deadline ≤ now then none else some (now + min pollInterval.nanos (deadline - now))

/-- Asks the limiter. -/
def poll (m : Moment) (deadline : Nat) (l : RateLimiter) :
    Turn Admission (Except Crash Bool) × RateLimiter :=
  match l.poll m.wall with
  | (true, l) => (.done (.ok true), l)
  | (false, l) =>
    match nextPoll? m.now deadline with
    | none => (.done (.ok false), l)
    | some wake => (.going (.polling wake deadline), l)

/-- Makes one move; none if the caller must wait. It ends with whether the caller was admitted. -/
def step (m : Moment) (a : Admission) (l : RateLimiter) :
    Option (Turn Admission (Except Crash Bool) × RateLimiter) :=
  match a with
  | .begun =>
    match deadline m.now l.settings.timeout with
    | .error crash => some (.done (.error crash), l)
    | .ok deadline => some (poll m deadline l)
  | .polling wake deadline => if wake ≤ m.now then some (poll m deadline l) else none

/-- The instants at which a waiting caller may move by itself. -/
def deadlines : Admission → List Nat
  | .begun => []
  | .polling wake _ => [wake]

end Admission

end Courier

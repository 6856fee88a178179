import Courier.Crash
import Courier.Duration

/-!
# Delays between attempts

After a failed attempt the caller waits before the next one: always for the same time, or for a time
that grows by a factor with each attempt up to a greatest delay and is then spread by a draw.

Attempts count from one. The factor is raised to the number of the attempt less one, taken as a
signed number of 32 bits, by squaring: `power` multiplies in the order of the binary digits, from
the lowest on, so that its rounding is determined.
-/

set_option autoImplicit false
set_option relaxedAutoImplicit false

namespace Courier

/-- How the delay between attempts is chosen. -/
inductive RetryStrategy where
  | exponential (initial max : Duration) (multiplier jitter : Float)
  | constant (delay : Duration)

namespace RetryStrategy

/-- Half a second, doubled up to ten seconds, with a tenth of jitter. -/
def standard : RetryStrategy :=
  .exponential (.ofMillis 500) (.ofSecs 10) 2.0 0.1

/-- `result * base ^ n` for `n ≠ 0`, by squaring. -/
def squarings (base result : Float) (n : Nat) : Float :=
  let result := if n % 2 = 1 then result * base else result
  if _h : n / 2 = 0 then result else squarings (base * base) result (n / 2)
termination_by n
decreasing_by omega

/-- A power with an integer exponent; a negative one gives the reciprocal. -/
def power (base : Float) (exponent : Int) : Float :=
  let r := squarings base 1.0 exponent.natAbs
  if exponent < 0 then 1.0 / r else r

/-- The exponent for an attempt, as a signed number of 32 bits. -/
def exponent (attempt : Nat) : Int := Int.bmod (attempt - 1 : Nat) (Nat.pow 2 32)

/-- The smaller of two doubles; one that is not a number does not count. -/
def smaller (a b : Float) : Float :=
  if a.isNaN then b else if b.isNaN then a else if a < b then a else b

/-- The delay in seconds before jitter. -/
def cappedSeconds (initial max : Duration) (multiplier : Float) (attempt : Nat) : Float :=
  smaller (initial.seconds * power multiplier (exponent attempt)) max.seconds

/-- The delay after an attempt. Positive jitter scales it by the draw `spread`. -/
def delay (strategy : RetryStrategy) (attempt : Nat) (spread : Float) : Except Crash Duration :=
  match strategy with
  | .constant delay => .ok delay
  | .exponential initial max multiplier jitter =>
    let capped := cappedSeconds initial max multiplier attempt
    let adjusted := if 0.0 < jitter then capped * (1.0 + jitter * spread) else capped
    match Duration.ofSeconds? adjusted with
    | some d => .ok d
    | none => .error .delayTooLong

end RetryStrategy

end Courier

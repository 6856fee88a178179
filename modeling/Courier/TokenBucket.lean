import Courier.Crash
import Courier.Duration

/-!
# Token buckets

A bucket of `burst` tokens to which one token comes back every `period` nanoseconds. It is kept as
the instant at which it would be full again: a token may be taken as long as that instant is at most
a full refill away, and taking one moves it by a period.
-/

set_option autoImplicit false
set_option relaxedAutoImplicit false

namespace Courier

/-- A bucket of tokens. -/
structure TokenBucket where
  /-- The time for one token, in nanoseconds. -/
  period : Nat
  burst : Nat
  /-- The instant until which tokens are spent; a full bucket has none. -/
  spentUntil : Option Nat := none
  deriving DecidableEq, Repr

namespace TokenBucket

/-- The longest time for one token or for all of them, in nanoseconds. -/
def maxPeriod : Nat := Nat.pow 2 64 - 1

/-- A full bucket. -/
def full (period burst : Nat) : Except Crash TokenBucket :=
  if maxPeriod < period * burst ∨ maxPeriod < period then .error .periodTooLong
  else .ok { period, burst }

/-- Takes a token. -/
def take? (b : TokenBucket) (now : Nat) : Option TokenBucket :=
  let spent := b.spentUntil.getD (now + b.period)
  if spent - b.period * b.burst ≤ now then
    some { b with spentUntil := some (max spent now + b.period) }
  else none

end TokenBucket

end Courier

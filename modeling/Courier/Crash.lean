/-!
# Crashes

A crash ends the call in which it happens. Senders, formatters and jobs may crash with a text or
without one; the service itself crashes where a quantity does not fit its clocks and counters.
-/

set_option autoImplicit false
set_option relaxedAutoImplicit false

namespace Courier

/-- Why a call crashed. -/
inductive Crash where
  /-- With a text of its own. -/
  | raised (text : String)
  /-- Without a text. -/
  | silent
  /-- A delay beyond the greatest duration. -/
  | delayTooLong
  /-- A deadline beyond the end of the clock. -/
  | deadlineTooFar
  /-- More slots than a counter of slots can hold. -/
  | tooManySlots
  /-- A queue longer than a queue can be. -/
  | queueTooLong
  /-- A period that does not fit the clock of the rate limits. -/
  | periodTooLong
  deriving DecidableEq, Repr

namespace Crash

/-- The most slots or places that can be counted. -/
def maxSlots : Nat := Nat.pow 2 61 - 1

/-- The text of a crash, if it has one. -/
def text? : Crash → Option String
  | raised text => some text
  | silent => none
  | delayTooLong =>
    some "cannot convert float seconds to Duration: value is either too big or NaN"
  | deadlineTooFar => some "overflow when adding duration to instant"
  | tooManySlots | queueTooLong =>
    some ("a semaphore may not have more than MAX_PERMITS permits (" ++ toString maxSlots ++ ")")
  | periodTooLong => some "Duration is longer than 584 years: TryFromIntError(())"

/-- The text of a crash in a report. -/
def message (c : Crash) : String := c.text?.getD "non-string panic payload"

end Crash

end Courier

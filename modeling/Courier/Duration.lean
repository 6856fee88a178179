import Courier.Decode.Record

/-!
# Durations

A duration is a count of nanoseconds. The greatest one has `2 ^ 64 - 1` whole seconds and a
fraction. A number of seconds given as a double is rounded to the nearest nanosecond, a tie to the
even one; a negative number gives none, and one beyond the greatest duration has no duration at all.

`ofSeconds?` computes on the bits of the double, exactly; `seconds` goes the other way with one
rounding for each operation on doubles. `debugText` writes a duration in the largest unit that
leaves a whole part.
-/

set_option autoImplicit false
set_option relaxedAutoImplicit false

namespace Courier

/-- A length of time. -/
structure Duration where
  nanos : Nat
  deriving DecidableEq, Repr, Inhabited

namespace Duration

/-- The nanoseconds of a second. -/
def nanosPerSecond : Nat := 1000000000

/-- The nanoseconds of a millisecond. -/
def nanosPerMilli : Nat := 1000000

/-- No time at all. -/
def zero : Duration := ⟨0⟩

/-- A number of seconds. -/
def ofSecs (n : Nat) : Duration := ⟨n * nanosPerSecond⟩

/-- A number of milliseconds. -/
def ofMillis (n : Nat) : Duration := ⟨n * nanosPerMilli⟩

/-- The whole seconds. -/
def secs (d : Duration) : Nat := d.nanos / nanosPerSecond

/-- The nanoseconds beyond the whole seconds. -/
def subsecNanos (d : Duration) : Nat := d.nanos % nanosPerSecond

/-- The whole milliseconds. -/
def millis (d : Duration) : Nat := d.nanos / nanosPerMilli

/-- The duration is nothing. -/
def isZero (d : Duration) : Bool := d.nanos = 0

/-- The shorter of two durations. -/
def min (a b : Duration) : Duration := if a.nanos ≤ b.nanos then a else b

/-- The number of nanoseconds that no duration reaches. -/
def limit : Nat := Nat.pow 2 64 * nanosPerSecond

/-- The duration in seconds: the whole seconds and the fraction are rounded apart and added. -/
def seconds (d : Duration) : Float :=
  Float.ofNat d.secs + Float.ofNat d.subsecNanos / 1e9

/-- The quotient rounded to the nearest integer, a tie to the even one. -/
def roundDiv (n d : Nat) : Nat :=
  let q := n / d
  let r := 2 * (n % d)
  if r < d ∨ (r = d ∧ q % 2 = 0) then q else q + 1

/-- The nanoseconds of a finite double of seconds that is not negative. -/
def nanosOfBits (bits : Nat) : Nat :=
  let field : Nat := bits / Nat.pow 2 52
  let fraction : Nat := bits % Nat.pow 2 52
  let mantissa : Nat := if field = 0 then fraction else fraction + Nat.pow 2 52
  let exponent : Int := (if field = 0 then (1 : Int) else field) - 1075
  roundDiv (mantissa * nanosPerSecond * Nat.pow 2 exponent.toNat) (Nat.pow 2 (-exponent).toNat)

/-- The duration of a number of seconds, if it is not too long. Negative numbers count as zero. -/
def ofSeconds? (x : Float) : Option Duration :=
  if x.isNaN ∨ x ≤ 0.0 then some zero
  else if x.isInf then none
  else
    let nanos := nanosOfBits (x.toBits.toNat % Nat.pow 2 63)
    if nanos < limit then some ⟨nanos⟩ else none

/-- A decimal fraction of `unit` parts without trailing zeros, after a point. -/
def fractionText (part unit : Nat) : String :=
  if part = 0 then ""
  else
    let width := (toString unit).length - 1
    let digits := (toString (unit + part)).toList.drop 1
    let kept := (digits.take width).reverse.dropWhile (· = '0')
    "." ++ String.ofList kept.reverse

/-- The duration in the largest of seconds, milli-, micro- and nanoseconds that has a whole part. -/
def debugText (d : Duration) : String :=
  let write (unit : Nat) (name : String) : String :=
    toString (d.nanos / unit) ++ fractionText (d.nanos % unit) unit ++ name
  if nanosPerSecond ≤ d.nanos then write nanosPerSecond "s"
  else if nanosPerMilli ≤ d.nanos then write nanosPerMilli "ms"
  else if 1000 ≤ d.nanos then write 1000 "µs"
  else write 1 "ns"

/-- The duration as a record of whole seconds and nanoseconds. -/
def toJson (d : Duration) : Json :=
  .ofMembers [("secs", .ofNat d.secs), ("nanos", .ofNat d.subsecNanos)]

/-- The record of a duration. Nanoseconds beyond a second are carried over. -/
def form : Decode.Form (Nat × Nat) where
  title := "a duration"
  blank := (0, 0)
  closed := true
  fields :=
    [Decode.field "secs" .required Decode.natural64 fun p n => (n, p.2),
     Decode.field "nanos" .required Decode.natural32 fun p n => (p.1, n)]

/-- A duration from its record. -/
def decode : Decode.Decoder Duration :=
  Decode.checked (Decode.record form) fun (secs, nanos) =>
    if secs * nanosPerSecond + nanos < limit then .ok ⟨secs * nanosPerSecond + nanos⟩
    else .error "the duration is too long"

end Duration

end Courier

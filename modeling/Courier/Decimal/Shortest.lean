/-!
# The shortest decimal of a double

A finite double stands for every real number that rounds to it. Among the decimals in that
interval the shortest are those with the fewest digits, and of those the one closest to the double
is chosen. The search is exact: the double and its two boundaries are written over one
denominator, and for one digit, two digits, and so on up to seventeen the two neighbours of the
double on that decimal grid are tested for membership. Seventeen digits always suffice.

`Decimal` is a digit sequence with the place of its point; `positional` and `scientific` write it
out.
-/

set_option autoImplicit false
set_option relaxedAutoImplicit false

namespace Courier

/-- The decimal `digits * 10 ^ exponent`. -/
structure Decimal where
  digits : Nat
  exponent : Int
  deriving DecidableEq, Repr

namespace Decimal

/-- A positive double as a fraction with its rounding interval, over one denominator: the double is
`value / denominator` and the numbers that round to it lie between `low` and `high`. -/
structure Interval where
  low : Nat
  value : Nat
  high : Nat
  denominator : Nat
  /-- The two ends round to the double as well. -/
  closed : Bool
  deriving DecidableEq, Repr

/-- The interval of the positive double whose bits (without the sign) are `bits`. A power of two has
a neighbour below it at half the distance. -/
def Interval.ofBits (bits : Nat) : Interval :=
  let field : Nat := bits / Nat.pow 2 52
  let fraction : Nat := bits % Nat.pow 2 52
  let mantissa : Nat := if field = 0 then fraction else fraction + Nat.pow 2 52
  let exponent : Int := (if field = 0 then (1 : Int) else field) - 1075
  let narrow := fraction = 0 && 1 < field
  let up := Nat.pow 2 exponent.toNat
  let down := Nat.pow 2 (-exponent).toNat
  { low := (4 * mantissa - (if narrow then 1 else 2)) * up
    value := 4 * mantissa * up
    high := (4 * mantissa + 2) * up
    denominator := 4 * down
    closed := mantissa % 2 = 0 }

/-- The number of decimal digits of a natural number; zero has one. -/
def digitCount (n : Nat) : Nat := (Nat.toDigits 10 n).length

/-- The exponent `p` with `10 ^ (p - 1) ≤ value / denominator < 10 ^ p`. -/
def Interval.magnitude (i : Interval) : Int :=
  if i.denominator ≤ i.value then digitCount (i.value / i.denominator)
  else
    let below := digitCount (i.denominator / i.value) - 1
    if i.denominator ≤ i.value * Nat.pow 10 below then 1 - (below : Int) else -(below : Int)

/-- The multiple `digits` of `10 ^ exponent` lies in the interval. -/
def Interval.holds (i : Interval) (d : Decimal) : Bool :=
  let scaled := d.digits * Nat.pow 10 d.exponent.toNat * i.denominator
  let unit := Nat.pow 10 (-d.exponent).toNat
  if i.closed then i.low * unit ≤ scaled && scaled ≤ i.high * unit
  else i.low * unit < scaled && scaled < i.high * unit

/-- Of the two neighbours of the double on the grid of `10 ^ exponent`, the one that lies in the
interval; of two, the nearer, and at equal distance the even one. -/
def Interval.onGrid? (i : Interval) (exponent : Int) : Option Decimal :=
  let scaled := i.value * Nat.pow 10 (-exponent).toNat
  let unit := i.denominator * Nat.pow 10 exponent.toNat
  let below : Decimal := ⟨scaled / unit, exponent⟩
  let above : Decimal := ⟨scaled / unit + 1, exponent⟩
  let excess := 2 * (scaled % unit)
  match i.holds below, i.holds above with
  | true, true =>
    some (if excess < unit || (excess = unit && below.digits % 2 = 0) then below else above)
  | true, false => some below
  | false, true => some above
  | false, false => none

/-- The first grid with a hit, from the coarsest on. -/
def Interval.search (i : Interval) (magnitude : Int) : Nat → Nat → Decimal
  | 0, digits => ⟨i.value / i.denominator, magnitude - digits⟩
  | tries + 1, digits =>
    match i.onGrid? (magnitude - digits) with
    | some d => d
    | none => i.search magnitude tries (digits + 1)

/-- A decimal without trailing zeros. -/
def strip (d : Decimal) : Nat → Decimal
  | 0 => d
  | n + 1 => if d.digits ≠ 0 ∧ d.digits % 10 = 0 then strip ⟨d.digits / 10, d.exponent + 1⟩ n else d

/-- The shortest decimal that reads back as the positive finite double. -/
def shortest (x : Float) : Decimal :=
  let i := Interval.ofBits (x.toBits.toNat % Nat.pow 2 63)
  (i.search i.magnitude 17 1).strip 17

/-- The sign bit is set. -/
def isNegative (x : Float) : Bool := Nat.pow 2 63 ≤ x.toBits.toNat

/-- Neither an infinity nor a NaN. -/
def isFinite (x : Float) : Bool := x.toBits.toNat / Nat.pow 2 52 % Nat.pow 2 11 ≠ 2047

/-- Zero of either sign. -/
def isZero (x : Float) : Bool := x.toBits.toNat % Nat.pow 2 63 = 0

/-- `n` zeros. -/
def zeros (n : Nat) : String := String.ofList (List.replicate n '0')

/-- The decimal with every digit in its place; an integer has no point. -/
def positional (d : Decimal) : String :=
  let text := toString d.digits
  if 0 ≤ d.exponent then text ++ zeros d.exponent.toNat
  else
    let places := (-d.exponent).toNat
    if text.length ≤ places then "0." ++ zeros (places - text.length) ++ text
    else
      let whole := text.toList.take (text.length - places)
      String.ofList whole ++ "." ++ String.ofList (text.toList.drop whole.length)

/-- One digit, the other digits after a point, and the power of ten. -/
def scientific (d : Decimal) : String :=
  match (toString d.digits).toList with
  | [] => ""
  | first :: rest =>
    let power := d.exponent + rest.length
    let tail := if rest.isEmpty then "" else "." ++ String.ofList rest
    String.ofList [first] ++ tail ++ "e" ++ toString power

/-- A double as data formats write it: positional with at least one place after the point while the
point stands within sixteen digits after the first one or four zeros before it, scientific beyond.
The text reads back as the same double. -/
def text (x : Float) : String :=
  let sign := if isNegative x then "-" else ""
  if isZero x then sign ++ "0.0"
  else
    let d := shortest x
    let point := (digitCount d.digits : Int) + d.exponent
    if 0 ≤ d.exponent ∧ point ≤ 16 then sign ++ d.positional ++ ".0"
    else if -5 < point ∧ point ≤ 16 then sign ++ d.positional
    else sign ++ d.scientific

/-- A double with every digit in its place, however far from the point, and a place after the point.
The three values that are not finite have names. -/
def plainText (x : Float) : String :=
  if x.isNaN then "NaN"
  else
    let sign := if isNegative x then "-" else ""
    if isFinite x then
      if isZero x then sign ++ "0.0"
      else
        let d := shortest x
        sign ++ d.positional ++ (if 0 ≤ d.exponent then ".0" else "")
    else sign ++ "inf"

end Decimal

end Courier

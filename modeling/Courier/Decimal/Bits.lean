import Courier.Json.Basic

/-!
# Doubles by their bits

Where a double must be told exactly and its decimal text would not do, it is told by the sixteen
hexadecimal digits of its bits. All doubles that are no numbers are told by one name.
-/

set_option autoImplicit false
set_option relaxedAutoImplicit false

namespace Courier.Decimal

/-- The sixteen hexadecimal digits of a number of 64 bits. -/
def bitsText (n : Nat) : String :=
  let digits := Nat.toDigits 16 n
  String.ofList (List.replicate (16 - digits.length) '0' ++ digits)

/-- A double by its bits. -/
def bitsJson (x : Float) : Json :=
  .string (if x.isNaN then "NaN" else bitsText x.toBits.toNat)

end Courier.Decimal

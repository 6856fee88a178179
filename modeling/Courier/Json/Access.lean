import Courier.Duration

/-!
# Reading members

A member that is not there, or is of another kind than is asked for, reads as nothing or as the value
given for that case. A duration is a number of milliseconds, or an object of seconds and nanoseconds;
doubles that are no numbers or infinite go by names.
-/

set_option autoImplicit false
set_option relaxedAutoImplicit false

namespace Courier.Json

/-- A member; `null` if it is not there. -/
def member (j : Json) (key : String) : Json := (j.get? key).getD .null

/-- The member is there and not `null`. -/
def has (j : Json) (key : String) : Bool :=
  match j.member key with
  | .null => false
  | _ => true

/-- The value of a number that is natural. -/
def asNat? : Json → Option Nat
  | .number (.int n) => if 0 ≤ n then some n.toNat else none
  | _ => none

/-- The value of an integer. -/
def asInt? : Json → Option Int
  | .number (.int n) => some n
  | _ => none

/-- The value of a truth value. -/
def asBool? : Json → Option Bool
  | .bool b => some b
  | _ => none

/-- The items of an array; no items for other values. -/
def items : Json → List Json
  | .array items => items
  | _ => []

/-- The members of an object; no members for other values. -/
def members : Json → List (String × Json)
  | .object members => members
  | _ => []

/-- A double, an integer as a double, or the name of a double. -/
def asFloat? : Json → Option Float
  | .number (.float x) => some x
  | .number (.int n) => some (Decode.floatOfInt n)
  | .string "nan" => some (0.0 / 0.0)
  | .string "inf" => some (1.0 / 0.0)
  | .string "-inf" => some (-1.0 / 0.0)
  | _ => none

/-- A number of milliseconds, or seconds and nanoseconds. -/
def asDuration? : Json → Option Duration
  | .number (.int n) => if 0 ≤ n then some (.ofMillis n.toNat) else none
  | j@(.object _) =>
    let part (key : String) : Nat := ((j.get? key).bind asNat?).getD 0
    some ⟨part "secs" * Duration.nanosPerSecond + part "nanos"⟩
  | _ => none

/-- The text of a member. -/
def strAt? (j : Json) (key : String) : Option String := (j.member key).asString?

/-- The text of a member, or another one. -/
def strAt (j : Json) (key : String) (absent : String := "") : String := (j.strAt? key).getD absent

/-- The natural number of a member. -/
def natAt? (j : Json) (key : String) : Option Nat := (j.member key).asNat?

/-- The natural number of a member, or another one. -/
def natAt (j : Json) (key : String) (absent : Nat) : Nat := (j.natAt? key).getD absent

/-- The integer of a member, or another one. -/
def intAt (j : Json) (key : String) (absent : Int) : Int := (j.member key).asInt?.getD absent

/-- The truth value of a member, or another one. -/
def boolAt (j : Json) (key : String) (absent : Bool) : Bool := (j.member key).asBool?.getD absent

/-- The double of a member, or another one. -/
def floatAt (j : Json) (key : String) (absent : Float) : Float :=
  (j.member key).asFloat?.getD absent

/-- The duration of a member. -/
def durationAt? (j : Json) (key : String) : Option Duration := (j.member key).asDuration?

/-- The duration of a member, or another one. -/
def durationAt (j : Json) (key : String) (absent : Duration) : Duration :=
  (j.durationAt? key).getD absent

/-- The items of a member. -/
def listAt (j : Json) (key : String) : List Json := (j.member key).items

/-- The texts among the items of a member. -/
def stringsAt (j : Json) (key : String) : List String := (j.listAt key).filterMap asString?

mutual

/-- Changes every string that is a value. -/
def mapStrings (f : String → String) : Json → Json
  | .string text => .string (f text)
  | .array items => .array (mapStringsList f items)
  | .object members => .object (mapStringsMembers f members)
  | j => j

/-- Changes every string among some items. -/
def mapStringsList (f : String → String) : List Json → List Json
  | [] => []
  | j :: rest => mapStrings f j :: mapStringsList f rest

/-- Changes every string among some members. -/
def mapStringsMembers (f : String → String) : List (String × Json) → List (String × Json)
  | [] => []
  | (key, j) :: rest => (key, mapStrings f j) :: mapStringsMembers f rest

end

end Courier.Json

/-!
# JSON values

A value is a tree. A number is an integer or a double: texts without point and exponent give
integers as long as they fit the 64-bit ranges, all others doubles. The members of an object are
kept in increasing order of their keys, each key once; `insertMember` keeps that order and lets the
last value for a key win, so two objects with the same members are the same list.
-/

set_option autoImplicit false
set_option relaxedAutoImplicit false

namespace Courier

/-- A number of a JSON text. -/
inductive Number where
  | int (value : Int)
  | float (value : Float)
  deriving Inhabited

/-- A JSON value. -/
inductive Json where
  | null
  | bool (value : Bool)
  | number (value : Number)
  | string (value : String)
  | array (items : List Json)
  | object (members : List (String × Json))
  deriving Inhabited

namespace Json

/-- Puts a member where its key belongs, replacing a member of the same key. -/
def insertMember {α : Type} (key : String) (value : α) :
    List (String × α) → List (String × α)
  | [] => [(key, value)]
  | (k, v) :: rest =>
    if key < k then (key, value) :: (k, v) :: rest
    else if key = k then (key, value) :: rest
    else (k, v) :: insertMember key value rest

/-- The members as an object holds them: in key order, of equal keys the last. -/
def sortMembers {α : Type} (members : List (String × α)) : List (String × α) :=
  members.foldl (fun sorted m => insertMember m.1 m.2 sorted) []

/-- The object of the given members. -/
def ofMembers (members : List (String × Json)) : Json := .object (sortMembers members)

/-- The value of a member. -/
def lookup {α : Type} (key : String) (members : List (String × α)) : Option α :=
  (members.find? fun m => m.1 = key).map Prod.snd

/-- The member of an object; nothing for other values. -/
def get? (json : Json) (key : String) : Option Json :=
  match json with
  | object members => lookup key members
  | _ => none

/-- The text of a string; nothing for other values. -/
def asString? : Json → Option String
  | string s => some s
  | _ => none

/-- An integer as a value. -/
def ofInt (n : Int) : Json := .number (.int n)

/-- A natural number as a value. -/
def ofNat (n : Nat) : Json := .number (.int n)

/-- A value, or `null` for nothing. -/
def ofOption {α : Type} (encode : α → Json) : Option α → Json
  | none => .null
  | some a => encode a

end Json

end Courier

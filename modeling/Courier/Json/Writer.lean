import Courier.Json.Basic
import Courier.Decimal.Shortest
import Courier.Text.Quoted

/-!
# Writing JSON

The compact text of a value: no blanks, members in key order, in strings only the quote, the
backslash and the controls escaped, doubles in the shortest form that reads back. A double that is
not finite has no JSON form and is written as `null`.
-/

set_option autoImplicit false
set_option relaxedAutoImplicit false

namespace Courier.Json

/-- A character as it stands in a JSON string. -/
def escapeChar (c : Char) : List Char :=
  if c = '"' then ['\\', '"']
  else if c = '\\' then ['\\', '\\']
  else if c = '\n' then ['\\', 'n']
  else if c = '\r' then ['\\', 'r']
  else if c = '\t' then ['\\', 't']
  else if c = '\x08' then ['\\', 'b']
  else if c = '\x0c' then ['\\', 'f']
  else if c.toNat < 0x20 then
    '\\' :: 'u' :: '0' :: '0' :: Nat.digitChar (c.toNat / 16) :: [Nat.digitChar (c.toNat % 16)]
  else [c]

/-- The characters of a JSON string with its quotes. -/
def stringChars (s : String) : List Char :=
  '"' :: (s.toList.flatMap escapeChar ++ ['"'])

/-- The characters of a number. -/
def Number.chars : Number → List Char
  | .int n => (toString n).toList
  | .float x => if Decimal.isFinite x then (Decimal.text x).toList else ['n', 'u', 'l', 'l']

mutual

/-- The characters of a value's compact text. -/
def chars : Json → List Char
  | .null => ['n', 'u', 'l', 'l']
  | .bool true => ['t', 'r', 'u', 'e']
  | .bool false => ['f', 'a', 'l', 's', 'e']
  | .number n => Number.chars n
  | .string s => stringChars s
  | .array [] => ['[', ']']
  | .array (item :: rest) => '[' :: (chars item ++ itemChars rest)
  | .object [] => ['\x7b', '\x7d']
  | .object ((key, value) :: rest) =>
    '\x7b' :: (stringChars key ++ ':' :: (chars value ++ memberChars rest))

/-- The items after the first one, with the closing bracket. -/
def itemChars : List Json → List Char
  | [] => [']']
  | item :: rest => ',' :: (chars item ++ itemChars rest)

/-- The members after the first one, with the closing brace. -/
def memberChars : List (String × Json) → List Char
  | [] => ['\x7d']
  | (key, value) :: rest => ',' :: (stringChars key ++ ':' :: (chars value ++ memberChars rest))

end

/-- The compact text of a value. -/
def text (json : Json) : String := String.ofList json.chars

end Courier.Json

import Courier.Text.Hidden

/-!
# Quoted text

A text between double quotes, safe to show in a log line or a message: the quote and the backslash
are escaped, the usual controls have short forms, and a character that does not show is written by
its number in braces. `quoteAll` writes a list of texts between square brackets.
-/

set_option autoImplicit false
set_option relaxedAutoImplicit false

namespace Courier.Text

/-- The lower-case hexadecimal digits of a number. -/
def hexDigits (n : Nat) : String := String.ofList (Nat.toDigits 16 n)

/-- One character as it stands between the quotes. -/
def quoteChar (c : Char) : String :=
  if c = '\x00' then "\\0"
  else if c = '\t' then "\\t"
  else if c = '\r' then "\\r"
  else if c = '\n' then "\\n"
  else if c = '"' then "\\\""
  else if c = '\\' then "\\\\"
  else if isHidden c then "\\u\x7b" ++ hexDigits c.toNat ++ "\x7d"
  else c.toString

/-- The text between double quotes. -/
def quote (s : String) : String :=
  "\"" ++ String.join (s.toList.map quoteChar) ++ "\""

/-- The texts in order, each quoted, between square brackets. -/
def quoteAll (texts : List String) : String :=
  "[" ++ ", ".intercalate (texts.map quote) ++ "]"

end Courier.Text

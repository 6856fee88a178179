import Courier.Decode.Basic

/-!
# Entry identifiers

An identifier is a number of 128 bits, written as thirty-two small hexadecimal digits in groups of
eight, four, four, four and twelve. It is read in that form, without the hyphens, between braces, or
with a `urn:uuid:` before it, in letters of either size.
-/

set_option autoImplicit false
set_option relaxedAutoImplicit false

namespace Courier

/-- A universally unique identifier. -/
structure EntryId where
  value : Nat
  deriving DecidableEq, Repr, Inhabited

namespace EntryId

/-- The identifier of nothing. -/
def nil : EntryId := ⟨0⟩

/-- The hexadecimal digits of an identifier, with leading zeros. -/
def hexChars (id : EntryId) : List Char :=
  let digits := Nat.toDigits 16 id.value
  List.replicate (32 - digits.length) '0' ++ digits

/-- The identifier in its hyphenated form. -/
def text (id : EntryId) : String :=
  let digits := id.hexChars
  let group (start length : Nat) : String := String.ofList ((digits.drop start).take length)
  group 0 8 ++ "-" ++ group 8 4 ++ "-" ++ group 12 4 ++ "-" ++ group 16 4 ++ "-" ++ group 20 12

/-- The number of hexadecimal digits. -/
def ofHex? (cs : List Char) : Option EntryId := do
  let digits ← cs.mapM Json.hexDigit?
  return ⟨digits.foldl (fun n d => n * 16 + d) 0⟩

/-- The number of the hyphenated form: hyphens stand at four places, and digits at all others. -/
def ofHyphenated? (cs : List Char) : Option EntryId :=
  let hyphenAt (i : Nat) : Bool := cs[i]? = some '-'
  if cs.length = 36 ∧ hyphenAt 8 ∧ hyphenAt 13 ∧ hyphenAt 18 ∧ hyphenAt 23 then
    ofHex? (cs.take 8 ++ (cs.drop 9).take 4 ++ (cs.drop 14).take 4 ++ (cs.drop 19).take 4 ++
      cs.drop 24)
  else none

/-- Reads any of the forms. -/
def ofText? (text : String) : Option EntryId :=
  let cs := text.toList
  if cs.length = 32 then ofHex? cs
  else if cs.length = 36 then ofHyphenated? cs
  else if cs.length = 38 ∧ cs.head? = some '\x7b' ∧ cs.getLast? = some '\x7d' then
    ofHyphenated? ((cs.drop 1).take 36)
  else if cs.take 9 = "urn:uuid:".toList then ofHyphenated? (cs.drop 9)
  else none

/-- An identifier from its text. -/
def decode : Decode.Decoder EntryId
  | _, .string s =>
    match ofText? s with
    | some id => .ok id
    | none => Decode.fail (.refused "not an identifier")
  | dialect, draft => Decode.unexpected dialect draft "an identifier"

end EntryId

end Courier

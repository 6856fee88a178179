import Courier.Decode.Basic
import Courier.Timestamp.Text

/-!
# Scalars and keys of TOML

Strings come in four kinds: with escapes or literal, on one line or on several. A value that is not
a string, an array or a table is a run of letters, digits and a few signs: a truth value, an integer of
64 bits, a double, or a date, a time or both.
-/

set_option autoImplicit false
set_option relaxedAutoImplicit false

namespace Courier.Toml

/-- Reads a part of a document; what comes after it comes with it. -/
abbrev Reader (α : Type) := List Char → Option (α × List Char)

/-- A value that has no parts. -/
inductive Scalar where
  | string (text : String)
  | integer (value : Int)
  | float (value : Float)
  | bool (value : Bool)
  | datetime (text : String)

/-! ### Blanks and line ends -/

/-- A space or a tab. -/
def isBlankChar (c : Char) : Bool := c = ' ' || c = '\t'

/-- The text from the first character on that is not a space or a tab. -/
def skipBlanks (cs : List Char) : List Char := cs.dropWhile isBlankChar

/-- The text after a line end. -/
def lineEnd? : List Char → Option (List Char)
  | '\n' :: rest => some rest
  | '\r' :: '\n' :: rest => some rest
  | _ => none

/-- A character that may stand in a comment. -/
def isCommentChar (c : Char) : Bool := c = '\t' || (' ' ≤ c && c ≤ '~') || '\x7f' < c

/-- The text after a comment, if there is one. -/
def skipComment : List Char → List Char
  | '#' :: rest => rest.dropWhile isCommentChar
  | cs => cs

/-- The text after the end of a line, with blanks and a comment before it; the end of the document
is the end of its last line. -/
def lineRest? (cs : List Char) : Option (List Char) :=
  match skipComment (skipBlanks cs) with
  | [] => some []
  | rest => lineEnd? rest

/-! ### Strings -/

/-- A character that stands for itself in a string with escapes. -/
def isPlainChar (c : Char) : Bool := isCommentChar c && c ≠ '"' && c ≠ '\\'

/-- A character that may stand in a literal string. -/
def isLiteralChar (c : Char) : Bool := isCommentChar c && c ≠ '\''

/-- The character of a number in hexadecimal digits. -/
def numbered? (cs : List Char) : Option Char := do
  let digits ← cs.mapM Json.hexDigit?
  let n := digits.foldl (fun n d => n * 16 + d) 0
  if n < 0xD800 ∨ (0xDFFF < n ∧ n < 0x110000) then some (Char.ofNat n) else none

/-- An escape after its backslash. -/
def escape : Reader Char := fun cs =>
  match cs with
  | 'b' :: rest => some ('\x08', rest)
  | 't' :: rest => some ('\t', rest)
  | 'n' :: rest => some ('\n', rest)
  | 'f' :: rest => some ('\x0c', rest)
  | 'r' :: rest => some ('\r', rest)
  | '"' :: rest => some ('"', rest)
  | '\\' :: rest => some ('\\', rest)
  | 'u' :: a :: b :: c :: d :: rest => (numbered? [a, b, c, d]).map fun e => (e, rest)
  | 'U' :: a :: b :: c :: d :: e :: f :: g :: h :: rest =>
    (numbered? [a, b, c, d, e, f, g, h]).map fun e => (e, rest)
  | _ => none

/-- A string with escapes after its opening quote; the characters so far are in reverse. -/
def basicChars : Nat → List Char → Reader String
  | 0, _, _ => none
  | fuel + 1, done, cs =>
    match cs with
    | '"' :: rest => some (String.ofList done.reverse, rest)
    | '\\' :: rest =>
      match escape rest with
      | some (c, rest) => basicChars fuel (c :: done) rest
      | none => none
    | c :: rest => if isPlainChar c then basicChars fuel (c :: done) rest else none
    | [] => none

/-- A literal string after its opening quote. -/
def literalChars : List Char → Reader String
  | _, [] => none
  | done, c :: rest =>
    if c = '\'' then some (String.ofList done.reverse, rest)
    else if isLiteralChar c then literalChars (c :: done) rest
    else none

/-- The quotes at the head of a text that may belong to the end of a long string: five at most. -/
def closingQuotes (quote : Char) (cs : List Char) : Nat :=
  ((cs.take 5).takeWhile fun c => c = quote).length

/-- The text after the blanks and line ends at its head. -/
def skipLines : List Char → List Char
  | ' ' :: rest => skipLines rest
  | '\t' :: rest => skipLines rest
  | '\n' :: rest => skipLines rest
  | '\r' :: '\n' :: rest => skipLines rest
  | cs => cs

/-- A long string with escapes after its opening quotes. -/
def longBasicChars : Nat → List Char → Reader String
  | 0, _, _ => none
  | fuel + 1, done, cs =>
    match cs with
    | '"' :: rest =>
      let quotes := closingQuotes '"' cs
      if 3 ≤ quotes then
        some (String.ofList (List.replicate (quotes - 3) '"' ++ done).reverse, cs.drop quotes)
      else longBasicChars fuel ('"' :: done) rest
    | '\\' :: rest =>
      match lineEnd? (skipBlanks rest) with
      | some rest => longBasicChars fuel done (skipLines rest)
      | none =>
        match escape rest with
        | some (c, rest) => longBasicChars fuel (c :: done) rest
        | none => none
    | c :: rest =>
      match lineEnd? cs with
      | some rest => longBasicChars fuel ('\n' :: done) rest
      | none => if isPlainChar c then longBasicChars fuel (c :: done) rest else none
    | [] => none

/-- A long literal string after its opening quotes. -/
def longLiteralChars : Nat → List Char → Reader String
  | 0, _, _ => none
  | fuel + 1, done, cs =>
    match cs with
    | '\'' :: rest =>
      let quotes := closingQuotes '\'' cs
      if 3 ≤ quotes then
        some (String.ofList (List.replicate (quotes - 3) '\'' ++ done).reverse, cs.drop quotes)
      else longLiteralChars fuel ('\'' :: done) rest
    | c :: rest =>
      match lineEnd? cs with
      | some rest => longLiteralChars fuel ('\n' :: done) rest
      | none => if isLiteralChar c then longLiteralChars fuel (c :: done) rest else none
    | [] => none

/-- The text of a long string begins after a line end that follows the quotes. -/
def afterLineEnd (cs : List Char) : List Char := (lineEnd? cs).getD cs

/-- A string on one line. -/
def shortString : Reader String := fun cs =>
  match cs with
  | '"' :: rest => basicChars cs.length [] rest
  | '\'' :: rest => literalChars [] rest
  | _ => none

/-- A string. -/
def string : Reader String := fun cs =>
  match cs with
  | '"' :: '"' :: '"' :: rest => longBasicChars cs.length [] (afterLineEnd rest)
  | '\'' :: '\'' :: '\'' :: rest => longLiteralChars cs.length [] (afterLineEnd rest)
  | _ => shortString cs

/-! ### Keys -/

/-- A character of a key without quotes. -/
def isKeyChar (c : Char) : Bool := c.isAlphanum || c = '_' || c = '-'

/-- One part of a key. -/
def simpleKey : Reader String := fun cs =>
  match cs with
  | '"' :: _ | '\'' :: _ => shortString cs
  | _ =>
    match cs.takeWhile isKeyChar with
    | [] => none
    | name => some (String.ofList name, cs.dropWhile isKeyChar)

/-- The most parts of a key, and the most levels of a value. -/
def depthLimit : Nat := 80

/-- A key of parts with points between them, and blanks around them. -/
def dottedKey : Nat → Reader (List String)
  | 0, _ => none
  | fuel + 1, cs => do
    let (name, cs) ← simpleKey (skipBlanks cs)
    match skipBlanks cs with
    | '.' :: rest => do
      let (names, rest) ← dottedKey fuel rest
      return (name :: names, rest)
    | rest => return ([name], rest)

/-- A key. -/
def key : Reader (List String) := dottedKey (depthLimit - 1)

/-! ### Numbers -/

/-- Digits of a base with underscores between them. -/
def spacedDigits? (digit : Char → Option Nat) : List Char → Option (List Nat)
  | [] => none
  | [c] => (digit c).map fun d => [d]
  | c :: '_' :: rest => do
    let d ← digit c
    return d :: (← spacedDigits? digit rest)
  | c :: rest => do
    let d ← digit c
    return d :: (← spacedDigits? digit rest)

/-- The number of some digits. -/
def numberOf (base : Nat) (digits : List Nat) : Nat := digits.foldl (fun n d => n * base + d) 0

/-- A sign, and what follows it. -/
def signed : List Char → Bool × List Char
  | '+' :: rest => (false, rest)
  | '-' :: rest => (true, rest)
  | rest => (false, rest)

/-- Decimal digits without a zero before others. -/
def wholeDigits? (cs : List Char) : Option (List Nat) := do
  let digits ← spacedDigits? Json.digit? cs
  match digits with
  | 0 :: _ :: _ => none
  | _ => some digits

/-- An integer of a base, without a sign. -/
def based? (base : Nat) (cs : List Char) : Option Nat :=
  (spacedDigits? (fun c => (Json.hexDigit? c).filter fun d => d < base) cs).map (numberOf base)

/-- An integer of any form. -/
def integer? (cs : List Char) : Option Int :=
  match cs with
  | '0' :: 'x' :: rest => (based? 16 rest).map Int.ofNat
  | '0' :: 'o' :: rest => (based? 8 rest).map Int.ofNat
  | '0' :: 'b' :: rest => (based? 2 rest).map Int.ofNat
  | _ =>
    let (negative, rest) := signed cs
    (wholeDigits? rest).map fun digits =>
      if negative then -(numberOf 10 digits : Int) else numberOf 10 digits

/-- The integer fits 64 bits. -/
def fits (n : Int) : Bool := -Int.pow 2 63 ≤ n && n < Int.pow 2 63

/-- The text before a character of some kind, and the text after it, if there is one. -/
def cutAt (stop : Char → Bool) (cs : List Char) : List Char × Option (List Char) :=
  match cs.dropWhile fun c => !stop c with
  | [] => (cs, none)
  | _ :: rest => (cs.takeWhile fun c => !stop c, some rest)

/-- A double with a fraction or an exponent. One beyond the greatest is refused. -/
def float? (cs : List Char) : Option Float := do
  let (negative, rest) := signed cs
  let (significand, power) := cutAt (fun c => c = 'e' || c = 'E') rest
  let (whole, fraction) := cutAt (fun c => c = '.') significand
  let whole ← wholeDigits? whole
  let fraction ←
    match fraction, power with
    | some cs, _ => spacedDigits? Json.digit? cs
    | none, some _ => some []
    | none, none => none
  let exponent : Int ←
    match power with
    | none => some 0
    | some cs =>
      let (down, digits) := signed cs
      (spacedDigits? Json.digit? digits).map fun ds =>
        if down then -(numberOf 10 ds : Int) else numberOf 10 ds
  let digits := whole ++ fraction
  let exponent := exponent - fraction.length
  let mantissa := numberOf 10 digits
  let x : Float :=
    if mantissa = 0 ∨ exponent + digits.length < -400 then 0.0
    else if 400 < exponent + digits.length then 1.0 / 0.0
    else if 0 ≤ exponent then OfScientific.ofScientific mantissa false exponent.toNat
    else OfScientific.ofScientific mantissa true exponent.natAbs
  if negative then some (-x) else if x.isInf then none else some x

/-! ### Dates and times -/

/-- A number of exactly so many digits. -/
def fixedNumber (width : Nat) : Reader Nat := fun cs =>
  match (cs.take width).mapM Json.digit? with
  | some digits => if digits.length = width then some (numberOf 10 digits, cs.drop width) else none
  | none => none

/-- A given character. -/
def mark (c : Char) : Reader Unit := fun cs =>
  match cs with
  | d :: rest => if c = d then some ((), rest) else none
  | [] => none

/-- A date that exists, in its written form. -/
def date : Reader String := fun cs => do
  let (year, rest) ← fixedNumber 4 cs
  let ((), rest) ← mark '-' rest
  let (month, rest) ← fixedNumber 2 rest
  let ((), rest) ← mark '-' rest
  let (day, rest) ← fixedNumber 2 rest
  let d : Timestamp.Date := ⟨year, month, day⟩
  if d.isValid then some (String.ofList (cs.take 10), rest) else none

/-- The fraction of a second, in as few digits as needed and at most nine. -/
def fractionText (digits : List Char) : String :=
  match ((digits.take 9).reverse.dropWhile fun c => c = '0').reverse with
  | [] => ""
  | kept => "." ++ String.ofList kept

/-- A time of day, in its written form. -/
def time : Reader String := fun cs => do
  let (hour, rest) ← fixedNumber 2 cs
  let ((), rest) ← mark ':' rest
  let (minute, rest) ← fixedNumber 2 rest
  let ((), rest) ← mark ':' rest
  let (second, rest) ← fixedNumber 2 rest
  if 23 < hour ∨ 59 < minute ∨ 60 < second then none
  else
    let whole := String.ofList (cs.take 8)
    match rest with
    | '.' :: fraction =>
      match fraction.takeWhile Char.isDigit with
      | [] => none
      | digits => some (whole ++ fractionText digits, fraction.dropWhile Char.isDigit)
    | _ => some (whole, rest)

/-- The offset of a time, in its written form; nothing at the end of the text. -/
def offset? (cs : List Char) : Option String :=
  match cs with
  | [] => some ""
  | ['Z'] | ['z'] => some "Z"
  | sign :: rest =>
    if sign = '+' ∨ sign = '-' then do
      let (hours, rest) ← fixedNumber 2 rest
      let ((), rest) ← mark ':' rest
      let (minutes, rest) ← fixedNumber 2 rest
      if rest.isEmpty ∧ hours ≤ 23 ∧ minutes ≤ 59 then some (String.ofList cs) else none
    else none

/-- A date, a time, or both with or without an offset. -/
def datetime? (cs : List Char) : Option String :=
  match date cs with
  | some (day, []) => some day
  | some (day, c :: rest) =>
    if c = 'T' ∨ c = 't' ∨ c = ' ' then do
      let (hour, rest) ← time rest
      let offset ← offset? rest
      return day ++ "T" ++ hour ++ offset
    else none
  | none =>
    match time cs with
    | some (hour, []) => some hour
    | _ => none

/-! ### Words -/

/-- A character of a value without quotes. -/
def isWordChar (c : Char) : Bool :=
  c.isAlphanum || c = '_' || c = '-' || c = '+' || c = '.' || c = ':'

/-- The scalar of a word. -/
def ofWord? (cs : List Char) : Option Scalar :=
  let (negative, rest) := signed cs
  if cs = "true".toList then some (.bool true)
  else if cs = "false".toList then some (.bool false)
  else if rest = "inf".toList then some (.float (if negative then -1.0 / 0.0 else 1.0 / 0.0))
  else if rest = "nan".toList then some (.float (0.0 / 0.0))
  else
    match integer? cs with
    | some n => if fits n then some (.integer n) else none
    | none =>
      match float? cs with
      | some x => some (.float x)
      | none => (datetime? cs).map .datetime

/-- A value without quotes; a date and a time may have a space between them. -/
def word : Reader Scalar := fun cs =>
  let head := cs.takeWhile isWordChar
  let rest := cs.dropWhile isWordChar
  match rest with
  | ' ' :: c :: more =>
    if (date head).any (fun d => d.2.isEmpty) ∧ c.isDigit then
      let whole := head ++ ' ' :: (c :: more).takeWhile isWordChar
      (ofWord? whole).map fun s => (s, (c :: more).dropWhile isWordChar)
    else (ofWord? head).map fun s => (s, rest)
  | _ => (ofWord? head).map fun s => (s, rest)

end Courier.Toml

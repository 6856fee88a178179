import Courier.Timestamp.Basic
import Courier.Text.Blank
import Courier.Decode.Basic

/-!
# The text of a timestamp

The internet format: date, `T`, time, fraction, offset. Written, the offset is always `Z` and the
fraction has no digits, three, six or nine, whichever is the fewest that loses nothing; a year beyond
four digits carries its sign. Read, the letters may be small, the `T` may be a space, blanks may stand
between the parts, numbers may have fewer digits, digits of the fraction beyond the ninth are dropped
and the offset may be any of less than a day.
-/

set_option autoImplicit false
set_option relaxedAutoImplicit false

namespace Courier.Timestamp

open Courier.Text (isSpace dropSpaces)

/-! ### Writing -/

/-- A number with at least `width` digits. -/
def padded (width n : Nat) : String :=
  let digits := toString n
  String.ofList (List.replicate (width - digits.length) '0') ++ digits

/-- A year of four digits, or of more with its sign. -/
def yearText (year : Int) : String :=
  if 0 ≤ year ∧ year ≤ 9999 then padded 4 year.toNat
  else (if year < 0 then "-" else "+") ++ padded 4 year.natAbs

/-- The seconds since midnight. -/
def secondOfDay (t : Timestamp) : Nat := (t.seconds % 86400).toNat

/-- The date and the time of day, with `separator` between them. A leap second is second sixty. -/
def dateTimeText (t : Timestamp) (separator : String) : String :=
  let date := dateOfDays (t.seconds.fdiv 86400)
  let second := t.secondOfDay
  yearText date.year ++ "-" ++ padded 2 date.month ++ "-" ++ padded 2 date.day ++ separator ++
    padded 2 (second / 3600) ++ ":" ++ padded 2 (second / 60 % 60) ++ ":" ++
    padded 2 (second % 60 + t.nanos / 1000000000)

/-- The fraction of a second in as few groups of three digits as lose nothing. -/
def fractionText (nanos : Nat) : String :=
  if nanos = 0 then ""
  else if nanos % 1000000 = 0 then "." ++ padded 3 (nanos / 1000000)
  else if nanos % 1000 = 0 then "." ++ padded 6 (nanos / 1000)
  else "." ++ padded 9 nanos

/-- The internet format in universal time. -/
def text (t : Timestamp) : String :=
  t.dateTimeText "T" ++ fractionText (t.nanos % 1000000000) ++ "Z"

/-! ### Reading -/

/-- Reads a part of a timestamp; the rest of the text comes with it. -/
abbrev Reader (α : Type) := List Char → Option (α × List Char)

/-- The digits at the head of a text, at most `most` of them. -/
def digits : Nat → List Char → List Nat × List Char
  | 0, cs => ([], cs)
  | _ + 1, [] => ([], [])
  | most + 1, c :: cs =>
    match Json.digit? c with
    | some d => let (ds, rest) := digits most cs; (d :: ds, rest)
    | none => ([], c :: cs)

/-- A number of one digit to `most` digits. -/
def number (most : Nat) : Reader Nat := fun cs =>
  match digits most cs with
  | ([], _) => none
  | (ds, rest) => some (ds.foldl (fun n d => n * 10 + d) 0, rest)

/-- A number of one digit to `most` digits, after blanks. -/
def spacedNumber (most : Nat) : Reader Nat := fun cs => number most (dropSpaces cs)

/-- A given character, after blanks. -/
def mark (c : Char) : Reader Unit := fun cs =>
  match dropSpaces cs with
  | [] => none
  | d :: rest => if c = d then some ((), rest) else none

/-- A year, after blanks: four digits at most unless it carries a sign. -/
def year : Reader Int := fun cs =>
  match dropSpaces cs with
  | '-' :: rest => (number rest.length rest).map fun (n, rest) => (-(n : Int), rest)
  | '+' :: rest => (number rest.length rest).map fun (n, rest) => ((n : Int), rest)
  | rest => (number 4 rest).map fun (n, rest) => ((n : Int), rest)

/-- The nanoseconds after a point; nothing without a point. -/
def fraction : Reader Nat := fun cs =>
  match cs with
  | '.' :: rest =>
    match digits 9 rest with
    | ([], _) => none
    | (ds, rest) =>
      let n := ds.foldl (fun n d => n * 10 + d) 0
      some (n * Nat.pow 10 (9 - ds.length), rest.dropWhile fun c => (Json.digit? c).isSome)
  | rest => some (0, rest)

/-- Two digits. -/
def twoDigits : Reader Nat := fun cs =>
  match cs with
  | a :: b :: rest => do
    let a ← Json.digit? a
    let b ← Json.digit? b
    return (a * 10 + b, rest)
  | _ => none

/-- The seconds by which local time is ahead of universal time. -/
def offset : Reader Int := fun cs =>
  match cs with
  | 'Z' :: rest | 'z' :: rest => some (0, rest)
  | u :: t :: c :: rest =>
    if u.toUpper = 'U' ∧ t.toUpper = 'T' ∧ c.toUpper = 'C' then some (0, rest)
    else do
      let sign ← if u = '+' then some (1 : Int) else if u = '-' ∨ u = '−' then some (-1) else none
      let (hours, rest) ← twoDigits (t :: c :: rest)
      let (minutes, rest) ← twoDigits (rest.dropWhile fun c => c = ':' || isSpace c)
      if minutes < 60 ∧ hours < 24 then
        return (sign * ((hours : Int) * 3600 + minutes * 60), rest)
      else none
  | _ => none

/-- The character between date and time. -/
def separator : Reader Unit := fun cs =>
  match cs with
  | 't' :: rest | 'T' :: rest | ' ' :: rest => some ((), rest)
  | _ => none

/-- Reads a whole text. -/
def ofText? (text : String) : Option Timestamp := do
  let (year, cs) ← year text.toList
  let ((), cs) ← mark '-' cs
  let (month, cs) ← spacedNumber 2 cs
  let ((), cs) ← mark '-' cs
  let (day, cs) ← spacedNumber 2 cs
  let ((), cs) ← separator cs
  let (hour, cs) ← spacedNumber 2 cs
  let ((), cs) ← mark ':' cs
  let (minute, cs) ← spacedNumber 2 cs
  let ((), cs) ← mark ':' cs
  let (second, cs) ← spacedNumber 2 cs
  let (nanos, cs) ← fraction cs
  let (ahead, cs) ← offset (dropSpaces cs)
  let date : Date := ⟨year, month, day⟩
  if (dropSpaces cs).isEmpty ∧ date.isValid ∧ hour < 24 ∧ minute < 60 ∧ second ≤ 60 then
    let leap := second = 60
    let localTime := daysOfDate date * 86400 + (hour : Int) * 3600 + (minute : Int) * 60 +
      (if leap then 59 else (second : Int))
    let t : Timestamp := ⟨localTime - ahead, nanos + if leap then 1000000000 else 0⟩
    let utc := dateOfDays (t.seconds.fdiv 86400)
    if -262143 ≤ utc.year ∧ utc.year ≤ 262142 then some t else none
  else none

/-- A timestamp from its text. -/
def decode : Decode.Decoder Timestamp
  | _, .string s =>
    match ofText? s with
    | some t => .ok t
    | none => Decode.fail (.refused "not a date and time")
  | dialect, draft => Decode.unexpected dialect draft "a date and time"

end Courier.Timestamp

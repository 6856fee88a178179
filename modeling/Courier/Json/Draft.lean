import Courier.Json.Basic

/-!
# Reading JSON

A text is read once, into a draft: the tree of what it says as far as it can be read. Where the
text is broken the draft says how, at the place where it is broken, so that a decoder that walks the
draft in the order of the text meets a value of the wrong shape and a fault of the syntax in the
order in which they stand.

A value that cannot be used may still be skipped: a number too large for a double or half of a
surrogate pair matters only to someone who wants the value. `Draft.flawed` keeps both answers.

`Draft.ofText` reads a text. `Draft.toJson` turns a draft into a value, at most as many levels deep
as it is told; `Json.ofText` joins the two.
-/

set_option autoImplicit false
set_option relaxedAutoImplicit false

namespace Courier.Json

/-- A fault of the syntax. -/
inductive Flaw where
  | cutValue
  | cutString
  | cutArray
  | cutObject
  | expectedValue
  | expectedIdent
  | expectedColon
  | expectedItemEnd
  | expectedMemberEnd
  | invalidNumber
  | numberOutOfRange
  | keyNotString
  | invalidEscape
  | controlCharacter
  | loneSurrogate
  | brokenSurrogatePair
  | trailingCharacters
  | trailingComma
  | tooDeep
  deriving DecidableEq, Repr, Inhabited

/-- The text ends too early; more text might have mended it. -/
def Flaw.isCut : Flaw → Bool
  | cutValue | cutString | cutArray | cutObject => true
  | _ => false

/-- The wording of a fault. -/
def Flaw.message : Flaw → String
  | cutValue => "EOF while parsing a value"
  | cutString => "EOF while parsing a string"
  | cutArray => "EOF while parsing a list"
  | cutObject => "EOF while parsing an object"
  | expectedValue => "expected value"
  | expectedIdent => "expected ident"
  | expectedColon => "expected `:`"
  | expectedItemEnd => "expected `,` or `]`"
  | expectedMemberEnd => "expected `,` or `\x7d`"
  | invalidNumber => "invalid number"
  | numberOutOfRange => "number out of range"
  | keyNotString => "key must be a string"
  | invalidEscape => "invalid escape"
  | controlCharacter => "control character (\\u0000-\\u001F) found while parsing a string"
  | loneSurrogate => "lone leading surrogate in hex escape"
  | brokenSurrogatePair => "unexpected end of hex escape"
  | trailingCharacters => "trailing characters"
  | trailingComma => "trailing comma"
  | tooDeep => "recursion limit exceeded"

/-- What a text says as far as it can be read. -/
inductive Draft where
  | null
  | bool (value : Bool)
  | number (value : Number)
  | string (value : String)
  /-- The items read, and the fault that ended the array instead of a bracket. -/
  | array (items : List Draft) (stop : Option Flaw)
  /-- The members read, and the fault that ended the object instead of a brace. A key that cannot be
  used is a fault of its own. -/
  | object (members : List (Except Flaw String × Draft)) (stop : Option Flaw)
  /-- The fault for a reader of the value, and the one for a reader who skips it. -/
  | flawed (used : Flaw) (skipped : Option Flaw)
  deriving Inhabited

/-! ### Numbers -/

/-- The largest integer that a number may have. -/
def maxNatural : Nat := Nat.pow 2 64 - 1

/-- A numeral taken apart: its digits are numbers from zero to nine. -/
structure Numeral where
  negative : Bool
  whole : List Nat
  fraction : Option (List Nat)
  /-- The sign of the exponent, true for a minus, and its digits. -/
  power : Option (Bool × List Nat)

/-- Appends digits to a number as long as it stays below `limit`; the number of digits that were
taken comes with it, and the digits that were not. -/
def takeDigits (limit : Nat) : Nat → Nat → List Nat → Nat × Nat × List Nat
  | n, count, [] => (n, count, [])
  | n, count, d :: rest =>
    if n * 10 + d ≤ limit then takeDigits limit (n * 10 + d) (count + 1) rest
    else (n, count, d :: rest)

/-- The double `significand * 10 ^ exponent`, scaled in steps that a double can hold: one product or
quotient by a power of ten up to the 308th, after division by `10 ^ 308` as often as needed. -/
def scale : Nat → Float → Int → Except Flaw Float
  | 0, x, _ => .ok x
  | steps + 1, x, exponent =>
    if exponent.natAbs ≤ 308 then
      let power := OfScientific.ofScientific 1 false exponent.natAbs
      if 0 ≤ exponent then
        if (x * power).isInf then .error .numberOutOfRange else .ok (x * power)
      else .ok (x / power)
    else if x == 0.0 then .ok x
    else if 0 ≤ exponent then .error .numberOutOfRange
    else scale steps (x / 1e308) (exponent + 308)

/-- The double of a significand, a power of ten and a sign. -/
def scaled (negative : Bool) (significand : Nat) (exponent : Int) : Except Flaw Number :=
  (scale 4 (Float.ofNat significand) exponent).map fun x => .float (if negative then -x else x)

/-- The largest exponent that is told apart from larger ones. -/
def maxPower : Nat := Nat.pow 2 31 - 1

/-- The double of a significand and a decimal exponent that is still to be moved by a written one.
An exponent beyond `maxPower` leaves only zero or nothing. -/
def powered (negative : Bool) (significand : Nat) (exponent : Int) :
    Option (Bool × List Nat) → Except Flaw Number
  | none => scaled negative significand exponent
  | some (down, digits) =>
    match takeDigits maxPower 0 0 digits with
    | (power, _, []) =>
      let moved := if down then exponent - power else exponent + power
      scaled negative significand (max (-Int.pow 2 31) (min moved (Int.pow 2 31 - 1)))
    | _ =>
      if significand ≠ 0 ∧ ¬ down then .error .numberOutOfRange
      else .ok (.float (if negative then -0.0 else 0.0))

/-- The number of a numeral. An integer that fits 64 bits is exact. Digits that the significand
cannot hold count as a power of ten before the point and not at all after it. -/
def Numeral.number (n : Numeral) : Except Flaw Number :=
  let (significand, _, rest) := takeDigits maxNatural 0 0 n.whole
  match n.fraction, n.power with
  | none, none =>
    if rest.isEmpty then
      if n.negative then
        if significand = 0 ∨ Nat.pow 2 63 < significand then
          .ok (.float (-(Float.ofNat significand)))
        else .ok (.int (-(significand : Int)))
      else .ok (.int significand)
    else scaled n.negative significand rest.length
  | none, power => powered n.negative significand rest.length power
  | some fraction, power =>
    let (significand, count, _) := takeDigits maxNatural significand 0 fraction
    powered n.negative significand ((rest.length : Int) - count) power

/-- The value of a decimal digit. -/
def digit? (c : Char) : Option Nat :=
  if '0' ≤ c ∧ c ≤ '9' then some (c.toNat - 48) else none

/-- The digits at the head of a text, and the rest. -/
def spanDigits : List Char → List Nat × List Char
  | [] => ([], [])
  | c :: cs =>
    match digit? c with
    | some d => let (ds, rest) := spanDigits cs; (d :: ds, rest)
    | none => ([], c :: cs)

/-- What a token gave: the value or the fault for who uses it, and the text after it or the fault
for who skips it. -/
structure Token (α : Type) where
  value : Except Flaw α
  rest : Except Flaw (List Char)

/-- A token at which the text breaks off for everyone. -/
def Token.broken {α : Type} (f : Flaw) : Token α := ⟨.error f, .error f⟩

/-- A numeral that lacks a digit: one that breaks off is cut for its user, and malformed for who
skips it. -/
def Token.noDigit {α : Type} (cs : List Char) : Token α :=
  ⟨.error (if cs.isEmpty then .cutValue else .invalidNumber), .error .invalidNumber⟩

/-- The exponent of a numeral, with the digits before it. -/
def exponentToken (negative : Bool) (whole : List Nat) (fraction : Option (List Nat))
    (cs : List Char) : Token Number :=
  let (down, cs) :=
    match cs with
    | '+' :: r => (false, r)
    | '-' :: r => (true, r)
    | r => (false, r)
  let (digits, rest) := spanDigits cs
  if digits.isEmpty then .noDigit cs
  else ⟨Numeral.number ⟨negative, whole, fraction, some (down, digits)⟩, .ok rest⟩

/-- A numeral after its sign. -/
def numberToken (negative : Bool) (cs : List Char) : Token Number :=
  let (whole, cs) := spanDigits cs
  match whole with
  | [] => .noDigit cs
  | 0 :: _ :: _ => .broken .invalidNumber
  | _ =>
    match cs with
    | '.' :: r =>
      let (fraction, rest) := spanDigits r
      if fraction.isEmpty then .noDigit r
      else
        match rest with
        | 'e' :: r | 'E' :: r => exponentToken negative whole (some fraction) r
        | _ => ⟨Numeral.number ⟨negative, whole, some fraction, none⟩, .ok rest⟩
    | 'e' :: r | 'E' :: r => exponentToken negative whole none r
    | _ => ⟨Numeral.number ⟨negative, whole, none, none⟩, .ok cs⟩

/-! ### Strings -/

/-- The value of a hexadecimal digit. -/
def hexDigit? (c : Char) : Option Nat :=
  if '0' ≤ c ∧ c ≤ '9' then some (c.toNat - 48)
  else if 'a' ≤ c ∧ c ≤ 'f' then some (c.toNat - 87)
  else if 'A' ≤ c ∧ c ≤ 'F' then some (c.toNat - 55)
  else none

/-- The number of four hexadecimal digits. -/
def hexQuad? (a b c d : Char) : Option Nat := do
  return ((← hexDigit? a) * 16 + (← hexDigit? b)) * 256 + (← hexDigit? c) * 16 + (← hexDigit? d)

/-- The text is shorter than four bytes. -/
def underFourBytes (cs : List Char) : Bool :=
  (cs.take 4).foldr (fun c size => c.utf8Size + size) 0 < 4

/-- The character of a one-letter escape. -/
def shortEscape? (c : Char) : Option Char :=
  if c = '"' ∨ c = '\\' ∨ c = '/' then some c
  else if c = 'b' then some '\x08'
  else if c = 'f' then some '\x0c'
  else if c = 'n' then some '\n'
  else if c = 'r' then some '\r'
  else if c = 't' then some '\t'
  else none

/-- A string being read: the characters so far in reverse, the first half of a surrogate pair that
waits for its second, and the first fault met. -/
structure Partial where
  chars : List Char := []
  lead : Option Nat := none
  fault : Option Flaw := none

/-- Notes a fault unless one came before. -/
def Partial.note (p : Partial) (f : Flaw) : Partial :=
  { p with lead := none, fault := p.fault <|> some f }

/-- A waiting surrogate that gets no second half. -/
def Partial.dropLead (p : Partial) : Partial :=
  if p.lead.isSome then p.note .brokenSurrogatePair else p

/-- Adds a character. -/
def Partial.push (p : Partial) (c : Char) : Partial := { p with chars := c :: p.chars }

/-- Adds a code unit that was written by its number. -/
def Partial.unit (p : Partial) (n : Nat) : Partial :=
  match p.lead with
  | some high =>
    if 0xDC00 ≤ n ∧ n ≤ 0xDFFF then
      { p with lead := none }.push (Char.ofNat ((high - 0xD800) * 1024 + (n - 0xDC00) + 0x10000))
    else p.note .loneSurrogate
  | none =>
    if 0xDC00 ≤ n ∧ n ≤ 0xDFFF then p.note .loneSurrogate
    else if 0xD800 ≤ n ∧ n ≤ 0xDBFF then { p with lead := some n }
    else p.push (Char.ofNat n)

/-- The string at a fault that ends the reading. -/
def Partial.stop (p : Partial) (f : Flaw) : Token String :=
  ⟨.error (p.fault.getD f), .error f⟩

/-- The string at its closing quote. -/
def Partial.close (p : Partial) (rest : List Char) : Token String :=
  ⟨match p.fault with
    | some f => .error f
    | none => .ok (String.ofList p.chars.reverse), .ok rest⟩

/-- A string after its opening quote. -/
def stringToken (p : Partial) : List Char → Token String
  | [] => p.stop .cutString
  | '"' :: rest => p.dropLead.close rest
  | ['\\'] => p.stop .cutString
  | '\\' :: 'u' :: a :: b :: c :: d :: rest =>
    if underFourBytes (a :: b :: c :: d :: rest) then p.stop .cutString
    else
      match hexQuad? a b c d with
      | some n => stringToken (p.unit n) rest
      | none => p.stop .invalidEscape
  | '\\' :: 'u' :: rest => p.stop (if underFourBytes rest then .cutString else .invalidEscape)
  | '\\' :: c :: rest =>
    match shortEscape? c with
    | some e => stringToken (p.dropLead.push e) rest
    | none => p.dropLead.stop .invalidEscape
  | c :: rest =>
    if c.toNat < 0x20 then p.dropLead.stop .controlCharacter
    else stringToken (p.dropLead.push c) rest

/-! ### Values -/

/-- The four blanks of JSON. -/
def isBlankChar (c : Char) : Bool := c = ' ' || c = '\n' || c = '\t' || c = '\r'

/-- The text from the first character on that is not a blank. -/
def skipBlanks (cs : List Char) : List Char := cs.dropWhile isBlankChar

/-- The rest of a word that has begun. -/
def word : List Char → List Char → Token Unit
  | [], cs => ⟨.ok (), .ok cs⟩
  | _ :: _, [] => .broken .cutValue
  | w :: ws, c :: cs => if w = c then word ws cs else .broken .expectedIdent

/-- What has been read of a value, and the text after it if reading can go on. -/
structure Reading where
  draft : Draft
  rest : Option (List Char)

/-- The value of a token. -/
def Reading.ofToken {α : Type} (make : α → Draft) (t : Token α) : Reading :=
  match t.value, t.rest with
  | .ok a, .ok rest => ⟨make a, some rest⟩
  | .ok a, .error _ => ⟨make a, none⟩
  | .error f, .ok rest => ⟨.flawed f none, some rest⟩
  | .error f, .error g => ⟨.flawed f (some g), none⟩

/-- A fault in the place of a value. -/
def Reading.broken (f : Flaw) : Reading := ⟨.flawed f (some f), none⟩

mutual

/-- Reads a value. Every character read pays for at most two calls, so twice the length of the text
and one is enough fuel. -/
def readValue : Nat → List Char → Reading
  | 0, _ => .broken .tooDeep
  | fuel + 1, cs =>
    match skipBlanks cs with
    | [] => .broken .cutValue
    | 'n' :: r => .ofToken (fun _ => .null) (word ['u', 'l', 'l'] r)
    | 't' :: r => .ofToken (fun _ => .bool true) (word ['r', 'u', 'e'] r)
    | 'f' :: r => .ofToken (fun _ => .bool false) (word ['a', 'l', 's', 'e'] r)
    | '-' :: r => .ofToken .number (numberToken true r)
    | '"' :: r => .ofToken .string (stringToken {} r)
    | '[' :: r =>
      match skipBlanks r with
      | [] => ⟨.array [] (some .cutArray), none⟩
      | ']' :: r => ⟨.array [] none, some r⟩
      | r => let (items, stop, rest) := readItems fuel r; ⟨.array items stop, rest⟩
    | '\x7b' :: r =>
      match skipBlanks r with
      | [] => ⟨.object [] (some .cutObject), none⟩
      | '\x7d' :: r => ⟨.object [] none, some r⟩
      | r => let (members, stop, rest) := readMembers fuel r; ⟨.object members stop, rest⟩
    | c :: r =>
      if (digit? c).isSome then .ofToken .number (numberToken false (c :: r))
      else .broken .expectedValue

/-- Reads the items of an array from the first one on. -/
def readItems : Nat → List Char → List Draft × Option Flaw × Option (List Char)
  | 0, _ => ([], some .tooDeep, none)
  | fuel + 1, cs =>
    match readValue fuel cs with
    | ⟨item, none⟩ => ([item], none, none)
    | ⟨item, some r⟩ =>
      match skipBlanks r with
      | [] => ([item], some .cutArray, none)
      | ']' :: r => ([item], none, some r)
      | ',' :: r =>
        match skipBlanks r with
        | [] => ([item], some .cutValue, none)
        | ']' :: _ => ([item], some .trailingComma, none)
        | r => let (items, stop, rest) := readItems fuel r; (item :: items, stop, rest)
      | _ => ([item], some .expectedItemEnd, none)

/-- Reads the members of an object from the first key on. -/
def readMembers : Nat → List Char →
    List (Except Flaw String × Draft) × Option Flaw × Option (List Char)
  | 0, _ => ([], some .tooDeep, none)
  | fuel + 1, cs =>
    match cs with
    | '"' :: r =>
      let key := stringToken {} r
      match key.rest with
      | .error f => ([(key.value, .flawed f (some f))], none, none)
      | .ok r =>
        match skipBlanks r with
        | [] => ([(key.value, .flawed .cutObject (some .cutObject))], none, none)
        | ':' :: r =>
          match readValue fuel r with
          | ⟨value, none⟩ => ([(key.value, value)], none, none)
          | ⟨value, some r⟩ =>
            match skipBlanks r with
            | [] => ([(key.value, value)], some .cutObject, none)
            | '\x7d' :: r => ([(key.value, value)], none, some r)
            | ',' :: r =>
              match skipBlanks r with
              | [] => ([(key.value, value)], some .cutValue, none)
              | '\x7d' :: _ => ([(key.value, value)], some .trailingComma, none)
              | r =>
                let (members, stop, rest) := readMembers fuel r
                ((key.value, value) :: members, stop, rest)
            | _ => ([(key.value, value)], some .expectedMemberEnd, none)
        | _ => ([(key.value, .flawed .expectedColon (some .expectedColon))], none, none)
    | _ => ([], some .keyNotString, none)

end

/-- Reads a text: its draft, and the fault of what follows the value. -/
def Draft.ofText (text : String) : Draft × Option Flaw :=
  let cs := text.toList
  match readValue (2 * cs.length + 1) cs with
  | ⟨draft, none⟩ => (draft, none)
  | ⟨draft, some rest⟩ =>
    (draft, if (skipBlanks rest).isEmpty then none else some .trailingCharacters)

mutual

/-- The fault that stops a reader who skips the value. -/
def Draft.skipFault? : Draft → Option Flaw
  | .array items stop => Draft.skipFaults? items <|> stop
  | .object members stop => Draft.skipMemberFaults? members <|> stop
  | .flawed _ skipped => skipped
  | _ => none

/-- The first fault in a list of items to skip. -/
def Draft.skipFaults? : List Draft → Option Flaw
  | [] => none
  | item :: rest => item.skipFault? <|> Draft.skipFaults? rest

/-- The first fault in a list of members to skip. -/
def Draft.skipMemberFaults? : List (Except Flaw String × Draft) → Option Flaw
  | [] => none
  | (_, value) :: rest => value.skipFault? <|> Draft.skipMemberFaults? rest

end

/-- One level further down, where a limit is set. -/
def deeper : Option Nat → Except Flaw (Option Nat)
  | none => .ok none
  | some 0 => .error .tooDeep
  | some (levels + 1) => .ok (some levels)

mutual

/-- The value of a draft, of at most `depth` levels if a limit is given. -/
def Draft.toJson (depth : Option Nat) : Draft → Except Flaw Json
  | .null => .ok .null
  | .bool b => .ok (.bool b)
  | .number n => .ok (.number n)
  | .string s => .ok (.string s)
  | .array items stop =>
    match deeper depth with
    | .error f => .error f
    | .ok depth =>
      match Draft.toItems depth items, stop with
      | .error f, _ => .error f
      | .ok _, some f => .error f
      | .ok values, none => .ok (.array values)
  | .object members stop =>
    match deeper depth with
    | .error f => .error f
    | .ok depth =>
      match Draft.toMembers depth members, stop with
      | .error f, _ => .error f
      | .ok _, some f => .error f
      | .ok values, none => .ok (Json.ofMembers values)
  | .flawed used _ => .error used

/-- The values of the items. -/
def Draft.toItems (depth : Option Nat) : List Draft → Except Flaw (List Json)
  | [] => .ok []
  | item :: rest =>
    match item.toJson depth with
    | .error f => .error f
    | .ok value => (Draft.toItems depth rest).map (value :: ·)

/-- The members with their values, in the order of the text. -/
def Draft.toMembers (depth : Option Nat) :
    List (Except Flaw String × Draft) → Except Flaw (List (String × Json))
  | [] => .ok []
  | (.error f, _) :: _ => .error f
  | (.ok key, value) :: rest =>
    match value.toJson depth with
    | .error f => .error f
    | .ok value => (Draft.toMembers depth rest).map ((key, value) :: ·)

end

mutual

/-- The draft of a value that has no fault. -/
def Draft.ofJson : Json → Draft
  | .null => .null
  | .bool b => .bool b
  | .number n => .number n
  | .string s => .string s
  | .array items => .array (Draft.ofItems items) none
  | .object members => .object (Draft.ofJsonMembers members) none

/-- The drafts of the items. -/
def Draft.ofItems : List Json → List Draft
  | [] => []
  | item :: rest => Draft.ofJson item :: Draft.ofItems rest

/-- The drafts of the members. -/
def Draft.ofJsonMembers : List (String × Json) → List (Except Flaw String × Draft)
  | [] => []
  | (key, value) :: rest => (.ok key, Draft.ofJson value) :: Draft.ofJsonMembers rest

end

/-- The levels of nesting that a text may have. -/
def depthLimit : Nat := 127

/-- Reads a value from a text. -/
def ofText (text : String) : Except Flaw Json :=
  match Draft.ofText text with
  | (draft, tail) =>
    match draft.toJson (some depthLimit), tail with
    | .error f, _ => .error f
    | .ok _, some f => .error f
    | .ok value, none => .ok value

end Courier.Json

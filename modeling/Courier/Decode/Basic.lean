import Courier.Json.Draft
import Courier.Decimal.Shortest
import Courier.Text.Quoted

/-!
# Decoding typed values

A decoder turns a draft into a typed value or says what stands in the way: a fault of the syntax or
a mismatch between what was found and what was expected. Decoders walk a draft in the order of its
text, so of two faults the first one in the text is reported.

The same decoders serve three dialects. A JSON text limits the depth of nesting and still has its
syntax to be checked; a JSON tree and a TOML document have neither. They differ in the wording of
doubles and in how they treat an array that is longer than a record.
-/

set_option autoImplicit false
set_option relaxedAutoImplicit false

namespace Courier.Decode

open Courier.Json (Flaw Draft)

/-- Where a draft comes from. A JSON text knows how many levels it may still go down. -/
inductive Dialect where
  | text (levels : Nat)
  | tree
  | toml
  deriving DecidableEq

/-- The levels left, where they are limited. -/
def Dialect.levels? : Dialect → Option Nat
  | text levels => some levels
  | _ => none

/-- The dialect inside an array or an object. -/
def Dialect.enter : Dialect → Except Flaw Dialect
  | text 0 => .error .tooDeep
  | text (levels + 1) => .ok (text levels)
  | other => .ok other

/-- A well-formed value that is not what was expected. -/
inductive Mismatch where
  | invalidType (found expected : String)
  | invalidValue (found expected : String)
  | invalidLength (count : Nat) (expected : String)
  | missingField (name : String)
  | duplicateField (name : String)
  | unknownVariant (name : String) (expected : List String)
  | refused (reason : String)
  deriving DecidableEq, Repr

/-- A name between back quotes. -/
def ticked (name : String) : String := "`" ++ name ++ "`"

/-- The alternatives of a choice in words. -/
def alternatives : List String → String
  | [] => "there are no variants"
  | [a] => "expected " ++ ticked a
  | [a, b] => "expected " ++ ticked a ++ " or " ++ ticked b
  | many => "expected one of " ++ ", ".intercalate (many.map ticked)

/-- The wording of a mismatch. -/
def Mismatch.message : Mismatch → String
  | invalidType found expected => "invalid type: " ++ found ++ ", expected " ++ expected
  | invalidValue found expected => "invalid value: " ++ found ++ ", expected " ++ expected
  | invalidLength count expected => "invalid length " ++ toString count ++ ", expected " ++ expected
  | missingField name => "missing field " ++ ticked name
  | duplicateField name => "duplicate field " ++ ticked name
  | unknownVariant name expected => "unknown variant " ++ ticked name ++ ", " ++ alternatives expected
  | refused reason => reason

/-- What stops a decoder. -/
inductive Fault where
  | flaw (flaw : Flaw)
  | mismatch (mismatch : Mismatch)
  deriving DecidableEq, Repr

/-- The wording of a fault. -/
def Fault.message : Fault → String
  | flaw f => f.message
  | mismatch m => m.message

/-- Turns a draft of some dialect into a typed value. -/
abbrev Decoder (α : Type) := Dialect → Draft → Except Fault α

/-- Raises a mismatch. -/
def fail {α : Type} (m : Mismatch) : Except Fault α := .error (.mismatch m)

/-- Raises a fault of the syntax. -/
def flawed {α : Type} (f : Flaw) : Except Fault α := .error (.flaw f)

/-- A fault of the syntax as a fault of decoding. -/
def liftFlaw {α : Type} : Except Flaw α → Except Fault α
  | .ok a => .ok a
  | .error f => .error (.flaw f)

/-- An integer in words. -/
def integerWords (n : Int) : String := "integer " ++ ticked (toString n)

/-- What a draft holds, in words. A place where the text is broken has no words. -/
def describe (dialect : Dialect) : Draft → Except Flaw String
  | .null => .ok "null"
  | .bool b => .ok ("boolean " ++ ticked (toString b))
  | .number (.int n) => .ok (integerWords n)
  | .number (.float x) =>
    .ok ("floating point " ++
      ticked (if dialect = .toml then Decimal.plainText x else Decimal.text x))
  | .string s => .ok ("string " ++ Text.quote s)
  | .array .. => .ok "sequence"
  | .object .. => .ok "map"
  | .flawed used _ => .error used

/-- The draft holds something of another type. -/
def unexpected {α : Type} (dialect : Dialect) (draft : Draft) (expected : String) :
    Except Fault α :=
  match describe dialect draft with
  | .ok found => fail (.invalidType found expected)
  | .error f => flawed f

/-- Leaves a value unread. -/
def skip (draft : Draft) : Except Fault Unit :=
  match draft.skipFault? with
  | some f => flawed f
  | none => .ok ()

/-! ### Scalars -/

/-- A string. -/
def string : Decoder String
  | _, .string s => .ok s
  | dialect, draft => unexpected dialect draft "a string"

/-- A truth value. -/
def bool : Decoder Bool
  | _, .bool b => .ok b
  | dialect, draft => unexpected dialect draft "a boolean"

/-- An integer between two bounds, under the name of its type. -/
def integer (low high : Int) (type : String) : Decoder Int
  | _, .number (.int n) =>
    if low ≤ n ∧ n ≤ high then .ok n else fail (.invalidValue (integerWords n) type)
  | dialect, draft => unexpected dialect draft type

/-- A natural number of 32 bits. -/
def natural32 : Decoder Nat := fun dialect draft =>
  (integer 0 (Int.pow 2 32 - 1) "u32" dialect draft).map Int.toNat

/-- A natural number of 64 bits. -/
def natural64 : Decoder Nat := fun dialect draft =>
  (integer 0 (Int.pow 2 64 - 1) "u64" dialect draft).map Int.toNat

/-- A size; sizes have 64 bits. -/
def size : Decoder Nat := fun dialect draft =>
  (integer 0 (Int.pow 2 64 - 1) "usize" dialect draft).map Int.toNat

/-- An integer of 32 bits with its sign. -/
def integer32 : Decoder Int := integer (-Int.pow 2 31) (Int.pow 2 31 - 1) "i32"

/-- The double nearest to an integer. -/
def floatOfInt (n : Int) : Float :=
  if n < 0 then -(Float.ofNat n.natAbs) else Float.ofNat n.natAbs

/-- A double; an integer counts as one. -/
def float : Decoder Float
  | _, .number (.float x) => .ok x
  | _, .number (.int n) => .ok (floatOfInt n)
  | dialect, draft => unexpected dialect draft "f64"

/-! ### Values made of values -/

/-- A value that may be `null`. -/
def optional {α : Type} (decode : Decoder α) : Decoder (Option α)
  | _, .null => .ok none
  | dialect, draft => (decode dialect draft).map some

/-- Any JSON value. -/
def json : Decoder Json
  | dialect, draft => liftFlaw (draft.toJson dialect.levels?)

/-- A value decoded and then checked; the reason of a refusal is reported. -/
def checked {α β : Type} (decode : Decoder α) (check : α → Except String β) : Decoder β :=
  fun dialect draft =>
    match decode dialect draft with
    | .error f => .error f
    | .ok a =>
      match check a with
      | .ok b => .ok b
      | .error reason => fail (.refused reason)

/-- The items of an array, one after the other. -/
def items {α : Type} (decode : Decoder α) (dialect : Dialect) :
    List Draft → Except Fault (List α)
  | [] => .ok []
  | item :: rest =>
    match decode dialect item with
    | .error f => .error f
    | .ok a => (items decode dialect rest).map (a :: ·)

/-- The fault that ends a container, if any, after its contents were read. -/
def closing (stop : Option Flaw) : Except Fault Unit :=
  match stop with
  | some f => flawed f
  | none => .ok ()

/-- An array of values. -/
def list {α : Type} (decode : Decoder α) : Decoder (List α)
  | dialect, .array drafts stop => do
    let inner ← liftFlaw dialect.enter
    let values ← items decode inner drafts
    closing stop
    return values
  | dialect, draft => unexpected dialect draft "a sequence"

/-- The members of an object, one after the other. -/
def members {α : Type} (decode : Decoder α) (dialect : Dialect) :
    List (Except Flaw String × Draft) → Except Fault (List (String × α))
  | [] => .ok []
  | (.error f, _) :: _ => flawed f
  | (.ok key, value) :: rest =>
    match decode dialect value with
    | .error f => .error f
    | .ok a => (members decode dialect rest).map ((key, a) :: ·)

/-- An object as a table in key order; the last value for a key counts. -/
def table {α : Type} (decode : Decoder α) : Decoder (List (String × α))
  | dialect, .object drafts stop => do
    let inner ← liftFlaw dialect.enter
    let values ← members decode inner drafts
    closing stop
    return Json.sortMembers values
  | dialect, draft => unexpected dialect draft "a map"

/-! ### Choices by name -/

/-- The value that goes by a name. -/
def named {α : Type} (variants : List (String × α)) (name : String) : Except Fault α :=
  match Json.lookup name variants with
  | some a => .ok a
  | none => fail (.unknownVariant name (variants.map Prod.fst))

/-- The content that a bare name may carry: nothing, in the way the dialect says so. -/
def noContent (dialect : Dialect) (draft : Draft) : Except Fault Unit :=
  if dialect = .toml then
    match draft with
    | .array [] _ | .object [] _ => .ok ()
    | _ => fail (.refused "expected nothing beside the name")
  else
    match draft with
    | .null => .ok ()
    | other => unexpected dialect other "unit"

/-- One of some values by its name, written as the name alone or as an object with the name as its
only key. -/
def choice {α : Type} (variants : List (String × α)) : Decoder α
  | _, .string name => named variants name
  | dialect, .object drafts stop => do
    let inner ← liftFlaw dialect.enter
    match drafts, dialect with
    | [], .text _ => flawed (stop.getD .expectedValue)
    | [], _ => fail (.invalidValue "map" "map with a single key")
    | (.error f, _) :: _, _ => flawed f
    | (.ok name, content) :: rest, .text _ =>
      let a ← named variants name
      noContent inner content
      match rest, stop with
      | [], none => return a
      | [], some .cutObject => flawed .cutObject
      | _, _ => flawed .expectedValue
    | (.ok name, content) :: [], _ =>
      let a ← named variants name
      noContent inner content
      return a
    | _, _ => fail (.invalidValue "map" "map with a single key")
  | .text _, .flawed used _ => flawed used
  | .text _, _ => flawed .expectedValue
  | dialect, draft => unexpected dialect draft "string or map"

/-! ### Entry points -/

/-- Decodes a JSON text. -/
def ofText {α : Type} (decode : Decoder α) (text : String) : Except Fault α :=
  match Draft.ofText text with
  | (draft, tail) => do
    let value ← decode (.text Json.depthLimit) draft
    closing tail
    return value

/-- Decodes a JSON value. -/
def ofJson {α : Type} (decode : Decoder α) (json : Json) : Except Fault α :=
  decode .tree (.ofJson json)

end Courier.Decode

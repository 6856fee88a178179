import Courier.Decode.Basic

/-!
# Decoding records

A record is written as an object with a member for each field, in any order and among members that
mean nothing to it, or as an array of its fields in their order. A field comes at most once. One
that does not come keeps its value from the blank record if the field may be missing; the blank
record fills the other fields only until they are read.

`Field.ofList` builds the fields of a record from setters; `record` is the decoder.
-/

set_option autoImplicit false
set_option relaxedAutoImplicit false

namespace Courier.Decode

open Courier.Json (Flaw Draft)

/-- When a field may be left out. -/
inductive Presence where
  /-- It must be there. -/
  | required
  /-- It may be missing from an object; an array has a place for it. -/
  | omittable
  /-- It may be missing from an object and, at the end, from an array. -/
  | defaulted
  deriving DecidableEq

/-- A field of a record of type `α`: its name, and how a draft changes the record. -/
structure Field (α : Type) where
  name : String
  presence : Presence
  update : Decoder (α → α)

/-- A field with a value of its own type. -/
def field {α β : Type} (name : String) (presence : Presence) (decode : Decoder β)
    (set : α → β → α) : Field α :=
  ⟨name, presence, fun dialect draft => (decode dialect draft).map fun b a => set a b⟩

/-- The form of a record. -/
structure Form (α : Type) where
  /-- What was expected where no record is found. -/
  title : String
  blank : α
  fields : List (Field α)
  /-- Members that belong to no field are refused. -/
  closed : Bool := false

/-- Reads the members of an object into a record; `seen` holds the names already read. -/
def readMembers {α : Type} (form : Form α) (dialect : Dialect) :
    List (Except Flaw String × Draft) → α × List String → Except Fault (α × List String)
  | [], state => .ok state
  | (.error f, _) :: _, _ => flawed f
  | (.ok key, draft) :: rest, (value, seen) =>
    match form.fields.find? (·.name = key) with
    | none =>
      if form.closed then
        fail (.refused ("unknown field " ++ ticked key ++ ", " ++
          alternatives (form.fields.map Field.name)))
      else
        match skip draft with
        | .error f => .error f
        | .ok () => readMembers form dialect rest (value, seen)
    | some field =>
      if key ∈ seen then fail (.duplicateField key)
      else
        match field.update dialect draft with
        | .error f => .error f
        | .ok change => readMembers form dialect rest (change value, key :: seen)

/-- The record, if no required field is missing. -/
def complete {α : Type} (value : α) (seen : List String) : List (Field α) → Except Fault α
  | [] => .ok value
  | field :: rest =>
    if field.presence = .required ∧ field.name ∉ seen then fail (.missingField field.name)
    else complete value seen rest

/-- The title with the number of fields. -/
def Form.titleWithCount {α : Type} (form : Form α) : String :=
  form.title ++ " with " ++ toString form.fields.length ++
    (if form.fields.length = 1 then " element" else " elements")

/-- Reads the items of an array into a record, one field after the other; what is left of the items
comes with it. -/
def readItems {α : Type} (form : Form α) (dialect : Dialect) (stop : Option Flaw) :
    Nat → List (Field α) → List Draft → α → Except Fault (α × List Draft)
  | _, [], drafts, value => .ok (value, drafts)
  | count, field :: fields, [], value =>
    match stop with
    | some f => flawed f
    | none =>
      if field.presence = .defaulted then readItems form dialect stop (count + 1) fields [] value
      else fail (.invalidLength count form.titleWithCount)
  | count, field :: fields, draft :: drafts, value =>
    match field.update dialect draft with
    | .error f => .error f
    | .ok change => readItems form dialect stop (count + 1) fields drafts (change value)

/-- What follows the last field in an array: nothing. A text that goes on is at fault where it goes
on; of a tree the whole length is reported, and a document is not asked. -/
def closeItems (dialect : Dialect) (count : Nat) (rest : List Draft) (stop : Option Flaw) :
    Except Fault Unit :=
  match dialect, rest, stop with
  | .text _, [], none => .ok ()
  | .text _, [], some .cutArray => flawed .cutArray
  | .text _, [], some .trailingComma => flawed .trailingComma
  | .text _, _, _ => flawed .trailingCharacters
  | .tree, [], _ => .ok ()
  | .tree, _ :: _, _ => fail (.invalidLength count "fewer elements in array")
  | .toml, _, _ => .ok ()

/-- A record of the given form. -/
def record {α : Type} (form : Form α) : Decoder α
  | dialect, .object drafts stop => do
    let inner ← liftFlaw dialect.enter
    let (value, seen) ← readMembers form inner drafts (form.blank, [])
    closing stop
    complete value seen form.fields
  | dialect, .array drafts stop => do
    let inner ← liftFlaw dialect.enter
    let (value, rest) ← readItems form inner stop 0 form.fields drafts form.blank
    closeItems dialect drafts.length rest stop
    return value
  | dialect, draft => unexpected dialect draft form.title

end Courier.Decode

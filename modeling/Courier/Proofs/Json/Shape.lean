import Courier.Proofs.Json.RoundTrip

/-!
# The shape of a value

A value fits a limit if it is nested no deeper and holds the members of its objects in order
(`Json.Fits`). These are the values that drafts have: one that fits is the value of its own draft
(`Fits.toJson`), and every value that a draft has fits (`fits_of_toJson`). If all its numbers are
integers of 64 bits besides (`Json.Integral`), it is what its text is read as (`Fits.lasting`).
-/

set_option autoImplicit false
set_option relaxedAutoImplicit false

namespace Courier.Json

/-- A value that is nested no deeper than a limit, if there is one, and holds the members of its
objects in order. -/
inductive Fits : Option ℕ → Json → Prop where
  | null {limit : Option ℕ} : Fits limit .null
  | bool {limit : Option ℕ} (b : Bool) : Fits limit (.bool b)
  | number {limit : Option ℕ} (n : Number) : Fits limit (.number n)
  | string {limit : Option ℕ} (s : String) : Fits limit (.string s)
  | array {limit inner : Option ℕ} {items : List Json} (hlimit : deeper limit = .ok inner)
      (hitems : ∀ j ∈ items, Fits inner j) : Fits limit (.array items)
  | object {limit inner : Option ℕ} {members : List (String × Json)}
      (hlimit : deeper limit = .ok inner) (hsorted : Sorted members)
      (hmembers : ∀ m ∈ members, Fits inner m.2) : Fits limit (.object members)

/-- A value in which every number is an integer of 64 bits, with a sign or without. -/
inductive Integral : Json → Prop where
  | null : Integral .null
  | bool (b : Bool) : Integral (.bool b)
  | number {i : ℤ} (hlow : -2 ^ 63 ≤ i) (hhigh : i < 2 ^ 64) : Integral (.number (.int i))
  | string (s : String) : Integral (.string s)
  | array {items : List Json} (hitems : ∀ j ∈ items, Integral j) : Integral (.array items)
  | object {members : List (String × Json)} (hmembers : ∀ m ∈ members, Integral m.2) :
      Integral (.object members)

variable {limit : Option ℕ} {j : Json}

/-- A value that fits is the value of its draft. -/
theorem Fits.toJson (h : Fits limit j) : Draft.toJson limit (.ofJson j) = .ok j := by
  induction h with
  | null | bool | number | string => rfl
  | array hlimit _ ih =>
    rw [Draft.ofJson, Draft.toJson, hlimit]
    simp only [toItems_ofItems ih]
  | object hlimit hsorted _ ih =>
    rw [Draft.ofJson, Draft.toJson, hlimit]
    simp only [toMembers_ofJsonMembers ih, ofMembers, sortMembers_of_sorted hsorted]

/-- An object with members of its own around a value that fits is one level deeper. -/
theorem Fits.of_members {levels : ℕ} {members : List (String × Json)}
    (h : ∀ m ∈ members, Fits (some levels) m.2) : Fits (some (levels + 1)) (.ofMembers members) :=
  .object rfl (sorted_sortMembers members) fun m hm ↦ h m (mem_sortMembers hm)

theorem Integral.of_members {members : List (String × Json)} (h : ∀ m ∈ members, Integral m.2) :
    Integral (.ofMembers members) :=
  .object fun m hm ↦ h m (mem_sortMembers hm)

/-- Strings that are written are read back, and so are integers. -/
theorem Fits.lasting {levels : ℕ} (h : Fits (some levels) j) (hnumbers : Integral j) :
    Lasting levels j := by
  induction hnumbers generalizing levels with
  | null => exact .null
  | bool b => exact .bool b
  | number hlow hhigh => exact .number (readsBack_int hlow hhigh)
  | string s => exact .string s
  | array _ ih =>
    cases h with
    | array hlimit hitems =>
      cases levels with
      | zero => cases hlimit
      | succ levels =>
        obtain rfl := Except.ok.inj hlimit
        exact .array fun j hj ↦ ih j hj (hitems j hj)
  | object _ ih =>
    cases h with
    | object hlimit hsorted hmembers =>
      cases levels with
      | zero => cases hlimit
      | succ levels =>
        obtain rfl := Except.ok.inj hlimit
        exact .object hsorted fun m hm ↦ ih m hm (hmembers m hm)

/-! ### The values of drafts -/

mutual

/-- The value of a draft fits the limit that was set. -/
theorem fits_of_toJson {limit : Option ℕ} (draft : Draft) {j : Json}
    (h : draft.toJson limit = .ok j) : Fits limit j := by
  match draft with
  | .null =>
    obtain rfl := Except.ok.inj h
    exact .null
  | .bool b =>
    obtain rfl := Except.ok.inj h
    exact .bool b
  | .number n =>
    obtain rfl := Except.ok.inj h
    exact .number n
  | .string s =>
    obtain rfl := Except.ok.inj h
    exact .string s
  | .flawed used skipped => cases h
  | .array items stop =>
    rw [Draft.toJson] at h
    split at h
    · cases h
    · rename_i hlimit
      split at h
      · cases h
      · cases h
      · rename_i hitems
        obtain rfl := Except.ok.inj h
        exact .array hlimit (fits_of_toItems items hitems)
  | .object members stop =>
    rw [Draft.toJson] at h
    split at h
    · cases h
    · rename_i hlimit
      split at h
      · cases h
      · cases h
      · rename_i hmembers
        obtain rfl := Except.ok.inj h
        exact .object hlimit (sorted_sortMembers _) fun m hm ↦
          fits_of_toMembers members hmembers m (mem_sortMembers hm)

theorem fits_of_toItems {limit : Option ℕ} (items : List Draft) {values : List Json}
    (h : Draft.toItems limit items = .ok values) : ∀ j ∈ values, Fits limit j := by
  match items with
  | [] =>
    obtain rfl := Except.ok.inj h
    simp
  | item :: rest =>
    rw [Draft.toItems] at h
    split at h
    · cases h
    · rename_i hitem
      cases hrest : Draft.toItems limit rest with
      | error f => rw [hrest] at h; cases h
      | ok others =>
        rw [hrest] at h
        obtain rfl := Except.ok.inj h
        exact List.forall_mem_cons.mpr
          ⟨fits_of_toJson item hitem, fits_of_toItems rest hrest⟩

theorem fits_of_toMembers {limit : Option ℕ} (members : List (Except Flaw String × Draft))
    {values : List (String × Json)} (h : Draft.toMembers limit members = .ok values) :
    ∀ m ∈ values, Fits limit m.2 := by
  match members with
  | [] =>
    obtain rfl := Except.ok.inj h
    simp
  | (.error f, _) :: rest => cases h
  | (.ok key, value) :: rest =>
    rw [Draft.toMembers] at h
    split at h
    · cases h
    · rename_i hvalue
      cases hrest : Draft.toMembers limit rest with
      | error f => rw [hrest] at h; cases h
      | ok others =>
        rw [hrest] at h
        obtain rfl := Except.ok.inj h
        exact List.forall_mem_cons.mpr
          ⟨fits_of_toJson value hvalue, fits_of_toMembers rest hrest⟩

end

end Courier.Json

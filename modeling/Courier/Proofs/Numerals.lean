import Courier.Json.Draft
import Mathlib.Data.List.Induction
import Mathlib.Data.Nat.Digits.Defs
import Mathlib.Data.Nat.Notation

/-!
# Numerals

The characters of a number in a base, maybe with zeros in front (`Numerals.IsNumeral`). Numbers are
written so (`isNumeral_toDigits`, `exists_padded` with at least so many digits), and readers get the
digits back one by one (`digit_digitChar`, `hexDigit_digitChar`), of which `Numerals.value` is the
number.
-/

set_option autoImplicit false
set_option relaxedAutoImplicit false

namespace Courier.Numerals

/-- The number of digits in a base, the first one counting most. -/
def value (base : ℕ) (ds : List ℕ) : ℕ := ds.foldl (fun n d ↦ n * base + d) 0

/-- The characters are digits of a base, and the number of these digits is `n`. -/
def IsNumeral (base n : ℕ) (cs : List Char) : Prop :=
  ∃ ds : List ℕ, cs = ds.map Nat.digitChar ∧ (∀ d ∈ ds, d < base) ∧ value base ds = n

variable {base n : ℕ} {cs : List Char}

theorem value_concat (ds : List ℕ) (d : ℕ) :
    value base (ds ++ [d]) = value base ds * base + d := by
  simp [value]

theorem isNumeral_toDigits (hbase : 1 < base) (n : ℕ) : IsNumeral base n (Nat.toDigits base n) := by
  induction n using Nat.base_induction base hbase with
  | single m hm =>
    refine ⟨[m], Nat.toDigits_of_lt_base hm, ?_, by simp [value]⟩
    intro d hd
    rwa [List.mem_singleton.mp hd]
  | digit m k hk hm ih =>
    obtain ⟨ds, hds, hlt, hvalue⟩ := ih
    refine ⟨ds ++ [k], ?_, ?_, ?_⟩
    · rw [← Nat.toDigits_append_toDigits hbase hm hk, hds, Nat.toDigits_of_lt_base hk,
        List.map_append, List.map_singleton]
    · intro d hd
      obtain hd | hd := List.mem_append.mp hd
      · exact hlt d hd
      · rwa [List.mem_singleton.mp hd]
    · rw [value_concat, hvalue, Nat.mul_comm]

/-- Zeros in front change nothing. -/
theorem IsNumeral.zeros (h : IsNumeral base n cs) (hbase : 0 < base) (k : ℕ) :
    IsNumeral base n (List.replicate k '0' ++ cs) := by
  obtain ⟨ds, rfl, hlt, rfl⟩ := h
  refine ⟨List.replicate k 0 ++ ds, ?_, ?_, ?_⟩
  · rw [List.map_append, List.map_replicate]
    rfl
  · intro d hd
    obtain hd | hd := List.mem_append.mp hd
    · rwa [List.eq_of_mem_replicate hd]
    · exact hlt d hd
  · have hzeros : (List.replicate k 0).foldl (fun n d ↦ n * base + d) 0 = 0 := by
      induction k with
      | zero => rfl
      | succ k ih => rw [List.replicate_succ, List.foldl_cons, Nat.zero_mul]; exact ih
    rw [value, List.foldl_append, hzeros]
    rfl

/-- Written with zeros in front up to a width, a number that has no more digits has just so many. -/
theorem length_padded {width : ℕ} (hwidth : 0 < width) (hn : n < base ^ width) :
    (List.replicate (width - (Nat.toDigits base n).length) '0' ++
      Nat.toDigits base n).length = width := by
  have hlength := Nat.toDigits_length base n width hwidth hn
  rw [List.length_append, List.length_replicate, Nat.sub_add_cancel hlength]

theorem digit_digitChar {d : ℕ} (hd : d < 10) : Json.digit? (Nat.digitChar d) = some d := by
  revert d
  decide

theorem hexDigit_digitChar {d : ℕ} (hd : d < 16) : Json.hexDigit? (Nat.digitChar d) = some d := by
  revert d
  decide

end Courier.Numerals

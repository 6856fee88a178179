import Mathlib

/-!
# Rounding to floats

What the arithmetic of floats makes of positive numbers that are far from its limits. A result is
computed as a mantissa with two more bits, of which the second stands for everything behind the
first; `Tells` says what they tell of the number. It goes through shifts (`Tells.shiftRight`), and
it is enough to round: a greater number is not rounded to a smaller mantissa
(`Tells.rounded_mono`).

`FullFloat` are the positive floats of full precision, and `FullFloat.Rounds` says that one of them
is a number rounded. It is monotone (`Rounds.mono`), and a number that is a float is rounded to
itself (`Rounds.eq_of_value`). So whole numbers and their products are exact
(`FullFloat.ofNat_unpacked`, `FullFloat.mul_unpacked`), and a quotient is rounded once
(`FullFloat.exists_div`). `RoundedTo` says the same of floats as they are stored, among them zero;
floats that are rounded are compared in `RoundedTo.lt_of_le` and `RoundedTo.lt_of_not_le`.
-/

set_option autoImplicit false
set_option relaxedAutoImplicit false

namespace Courier

open Float.Model Float.Model.UnpackedFloat

/-! ### Bits that are cut off -/

/-- What a mantissa and the two bits after it tell of a number. -/
def Tells : ExtendedMantissa → ℚ → Prop
  | ⟨m, false, false⟩, x => x = m
  | ⟨m, false, true⟩, x => m < x ∧ x < m + 1 / 2
  | ⟨m, true, false⟩, x => x = m + 1 / 2
  | ⟨m, true, true⟩, x => m + 1 / 2 < x ∧ x < m + 1

namespace Tells

variable {em em' : ExtendedMantissa} {x x' : ℚ}

theorem of_exact (m : ℕ) : Tells (.ofMantissaAndAccuracy m .exact) m := rfl

/-- A quotient and what remains of the division tell the fraction. -/
theorem fraction (p : ℕ) {q : ℕ} (hq : 0 < q) :
    Tells (.ofMantissaAndAccuracy (p / q) (accuracyOfFraction (p % q) q)) (p / q) := by
  have hq' : (0 : ℚ) < q := Nat.cast_pos.mpr hq
  have hx : (p : ℚ) / q = (p / q : ℕ) + (p % q : ℕ) / q := by
    have hp : (p : ℚ) = q * (p / q : ℕ) + (p % q : ℕ) := by
      rw [← Nat.cast_mul, ← Nat.cast_add, Nat.div_add_mod]
    rw [hp]
    field_simp
  rw [hx, accuracyOfFraction]
  split_ifs with hzero
  · simp [ExtendedMantissa.ofMantissaAndAccuracy, Tells, hzero]
  · have hpos : (0 : ℚ) < (p % q : ℕ) := Nat.cast_pos.mpr (Nat.pos_of_ne_zero hzero)
    have hrest : ((p % q : ℕ) : ℚ) < q := Nat.cast_lt.mpr (Nat.mod_lt p hq)
    have habove : 0 < ((p % q : ℕ) : ℚ) / q := div_pos hpos hq'
    have hbelow : ((p % q : ℕ) : ℚ) / q < 1 := (div_lt_one hq').mpr hrest
    cases hhalf : compare (2 * (p % q)) q with
    | lt =>
      have hless : ((p % q : ℕ) : ℚ) / q < 1 / 2 := by
        have h : (2 * (p % q : ℕ) : ℚ) < q := by exact_mod_cast Nat.compare_eq_lt.mp hhalf
        rw [div_lt_div_iff₀ hq' two_pos]
        linarith
      exact ⟨by linarith, by linarith⟩
    | eq =>
      have hequal : ((p % q : ℕ) : ℚ) / q = 1 / 2 := by
        have h : (2 * (p % q : ℕ) : ℚ) = q := by exact_mod_cast Nat.compare_eq_eq.mp hhalf
        rw [div_eq_div_iff hq'.ne' two_ne_zero]
        linarith
      exact congrArg _ hequal
    | gt =>
      have hmore : 1 / 2 < ((p % q : ℕ) : ℚ) / q := by
        have h : (q : ℚ) < 2 * (p % q : ℕ) := by exact_mod_cast Nat.compare_eq_gt.mp hhalf
        rw [div_lt_div_iff₀ two_pos hq']
        linarith
      exact ⟨by linarith, by linarith⟩

/-- The mantissa is the whole part. -/
theorem floor (h : Tells em x) : em.mantissa ≤ x ∧ x < em.mantissa + 1 := by
  obtain ⟨m, roundBit, stickyBit⟩ := em
  cases roundBit <;> cases stickyBit <;> simp only [Tells] at h ⊢ <;> constructor <;> linarith

/-- One bit more is cut off. -/
theorem shiftRightOne (h : Tells em x) : Tells em.shiftRightOne (x / 2) := by
  obtain ⟨m, roundBit, stickyBit⟩ := em
  have hm : (m : ℚ) = 2 * (m / 2 : ℕ) + (m % 2 : ℕ) := by
    rw [← Nat.cast_ofNat, ← Nat.cast_mul, ← Nat.cast_add, Nat.div_add_mod]
  obtain hbit | hbit := Nat.mod_two_eq_zero_or_one m <;> rw [hbit] at hm <;>
    cases roundBit <;> cases stickyBit <;>
    simp [Tells, ExtendedMantissa.shiftRightOne, hbit] at h hm ⊢ <;>
    first | linarith | constructor <;> linarith

theorem shiftRight (h : Tells em x) (n : ℕ) : Tells (em >>> n) (x / 2 ^ n) := by
  change Tells (n.repeat ExtendedMantissa.shiftRightOne em) _
  induction n with
  | zero => simpa [Nat.repeat] using h
  | succ n ih =>
    rw [Nat.repeat, pow_succ, ← div_div]
    exact ih.shiftRightOne

/-- Rounding leaves the mantissa or takes the next one. -/
theorem rounded_bounds (em : ExtendedMantissa) :
    em.mantissa ≤ em.roundedMantissa ∧ em.roundedMantissa ≤ em.mantissa + 1 := by
  obtain ⟨m, roundBit, stickyBit⟩ := em
  cases roundBit <;> cases stickyBit <;>
    simp only [ExtendedMantissa.roundedMantissa, ExtendedMantissa.accuracy,
      Accuracy.roundToNearestEven] <;> omega

/-- A greater number is not rounded to a smaller mantissa. -/
theorem rounded_mono (h : Tells em x) (h' : Tells em' x') (hle : x ≤ x') :
    em.roundedMantissa ≤ em'.roundedMantissa := by
  have hfloor := h.floor
  have hfloor' := h'.floor
  have hbounds := rounded_bounds em
  have hbounds' := rounded_bounds em'
  obtain hlt | heq | hgt := lt_trichotomy em.mantissa em'.mantissa
  · omega
  · -- the same mantissa: what was cut off decides
    obtain ⟨m, roundBit, stickyBit⟩ := em
    obtain ⟨m', roundBit', stickyBit'⟩ := em'
    obtain rfl : m = m' := heq
    cases roundBit <;> cases stickyBit <;> cases roundBit' <;> cases stickyBit' <;>
      simp only [Tells] at h h' <;>
      simp only [ExtendedMantissa.roundedMantissa, ExtendedMantissa.accuracy,
        Accuracy.roundToNearestEven] <;>
      first | omega | (exfalso; linarith)
  · have hnext : (em'.mantissa : ℚ) + 1 ≤ em.mantissa := by exact_mod_cast hgt
    linarith

/-- A number of full precision is rounded to a mantissa of full precision, or to the next power of
two. -/
theorem rounded_range (h : Tells em x) (hlow : 2 ^ 52 ≤ x) (hhigh : x ≤ 2 ^ 53) :
    2 ^ 52 ≤ em.roundedMantissa ∧ em.roundedMantissa ≤ 2 ^ 53 :=
  ⟨rounded_mono (.of_exact (2 ^ 52)) h (by exact_mod_cast hlow),
    rounded_mono h (.of_exact (2 ^ 53)) (by exact_mod_cast hhigh)⟩

/-- Rounding changes a number by at most one half. -/
theorem rounded_close (h : Tells em x) : |(em.roundedMantissa : ℚ) - x| ≤ 1 / 2 := by
  obtain ⟨m, roundBit, stickyBit⟩ := em
  have hodd : ((m % 2 : ℕ) : ℚ) = 0 ∨ ((m % 2 : ℕ) : ℚ) = 1 := by
    obtain h | h := Nat.mod_two_eq_zero_or_one m <;> simp [h]
  rw [abs_le]
  cases roundBit <;> cases stickyBit <;>
    simp only [Tells, ExtendedMantissa.roundedMantissa, ExtendedMantissa.accuracy,
      Accuracy.roundToNearestEven, Nat.cast_add, Nat.cast_one] at h ⊢ <;>
    constructor <;> obtain hodd | hodd := hodd <;> linarith

/-- A number that is near a whole number is rounded to it. -/
theorem rounded_eq {k : ℕ} (h : Tells em x) (hk : |x - k| < 1 / 2) : em.roundedMantissa = k := by
  have hclose := h.rounded_close
  rw [abs_le] at hclose
  rw [abs_lt] at hk
  have hlow : (em.roundedMantissa : ℚ) < k + 1 := by linarith
  have hhigh : (k : ℚ) < em.roundedMantissa + 1 := by linarith
  norm_cast at hlow hhigh
  omega

end Tells

/-! ### Floats of full precision -/

/-- A positive float of full precision. -/
structure FullFloat where
  mantissa : ℕ
  exponent : ℤ
  le_mantissa : 2 ^ 52 ≤ mantissa
  mantissa_lt : mantissa < 2 ^ 53
  le_exponent : -1074 ≤ exponent
  exponent_le : exponent ≤ 971

namespace FullFloat

variable {a b c : FullFloat} {m n s : ℕ} {e : ℤ} {x y : ℚ}

theorem mantissa_pos (a : FullFloat) : 0 < a.mantissa :=
  Nat.lt_of_lt_of_le (Nat.two_pow_pos 52) a.le_mantissa

/-- The number itself. -/
def value (a : FullFloat) : ℚ := a.mantissa * 2 ^ a.exponent

theorem value_pos (a : FullFloat) : 0 < a.value :=
  mul_pos (Nat.cast_pos.mpr a.mantissa_pos) (by positivity)

/-- The float as it is computed with. -/
def unpacked (a : FullFloat) : UnpackedFloat :=
  .finite .positive a.mantissa a.exponent a.mantissa_pos

theorem log2_mantissa (a : FullFloat) : a.mantissa.log2 = 52 :=
  (Nat.log2_eq_iff a.mantissa_pos.ne').mpr ⟨a.le_mantissa, a.mantissa_lt⟩

/-- The exponent that a number is given as long as it is not too small. -/
theorem targetExponent_eq {total : ℤ} (hmin : -1021 ≤ total) :
    Format.binary64.targetExponent total = total - 53 := by
  have hbits : Format.binary64.mantissaBits = 53 := rfl
  have hleast : Format.binary64.minExponent = -1074 := rfl
  rw [Format.targetExponent, hbits, hleast]
  omega

/-! ### Packing -/

/-- The first bit of a mantissa of full precision is not stored. -/
theorem toNat_one_append (hm : 2 ^ 52 ≤ m) (hm' : m < 2 ^ 53) :
    (1#1 ++ BitVec.ofNat 52 m).toNat = m := by
  rw [BitVec.toNat_append, ← Nat.shiftLeft_add_eq_or_of_lt (BitVec.isLt _), BitVec.toNat_ofNat,
    Nat.shiftLeft_eq, BitVec.toNat_ofNat]
  omega

/-- Packing loses nothing. -/
theorem unpack_pack (a : FullFloat) : (Float.Model.pack a.unpacked).unpack = a.unpacked := by
  have hlog := a.log2_mantissa
  have hmantissa := toNat_one_append a.le_mantissa a.mantissa_lt
  obtain ⟨m, e, _, _, _, _⟩ := a
  simp only at hlog hmantissa
  obtain ⟨biased, hbiased⟩ : ∃ biased : ℕ, e + 1075 = biased := ⟨(e + 1075).toNat, by omega⟩
  have hexponent : (BitVec.ofNat 11 biased).toNat = biased := by
    rw [BitVec.toNat_ofNat]
    exact Nat.mod_eq_of_lt (by omega)
  have hzero : BitVec.ofNat 11 biased ≠ 0#11 := by
    intro h
    rw [h, BitVec.toNat_zero] at hexponent
    omega
  have hones : BitVec.ofNat 11 biased ≠ -1#11 := by
    intro h
    have hall : (-1#11).toNat = 2047 := by decide
    rw [h] at hexponent
    omega
  have hbias : (Format.binary64.exponentBias : ℤ) = 1023 := rfl
  have hbits : m.log2 + 1 = Format.binary64.mantissaBits := by rw [hlog]; rfl
  have hroom : ¬ 2 ^ Format.binary64.exponentBits ≤ biased + 1 := by
    change ¬ 2 ^ 11 ≤ biased + 1
    omega
  have hpacked : (e + 1023 + (52 : ℕ)).toNat = biased := by omega
  have hunpacked : (biased : ℤ) - (1023 + (52 : ℕ)) = e := by omega
  change UnpackedFloat.unpack .binary64 (UnpackedFloat.pack .binary64 _) = _
  simp only [unpacked, UnpackedFloat.pack, hbias, hpacked, if_neg hroom, if_pos hbits]
  simp only [UnpackedFloat.unpack, unpackMantissa_packComponents, unpackExponent_packComponents,
    unpackSign_packComponents, hbias, if_neg hones, if_neg hzero, hmantissa, hexponent, hunpacked]
  rfl

/-! ### Rounded numbers -/

/-- One is not greater than the other. -/
def Le (a b : FullFloat) : Prop :=
  a.exponent < b.exponent ∨ a.exponent = b.exponent ∧ a.mantissa ≤ b.mantissa

/-- A float is a number rounded to full precision: the mantissa is rounded, and what no longer fits
is carried. -/
def Rounds (x : ℚ) (a : FullFloat) : Prop :=
  ∃ (em : ExtendedMantissa) (e : ℤ), 2 ^ 52 ≤ x / 2 ^ e ∧ x / 2 ^ e < 2 ^ 53 ∧
    Tells em (x / 2 ^ e) ∧
    (a.mantissa = em.roundedMantissa ∧ a.exponent = e ∨
      em.roundedMantissa = 2 ^ 53 ∧ a.mantissa = 2 ^ 52 ∧ a.exponent = e + 1)

theorem Rounds.pos (h : Rounds x a) : 0 < x := by
  obtain ⟨em, e, hlow, -⟩ := h
  rw [le_div_iff₀ (by positivity)] at hlow
  exact lt_of_lt_of_le (by positivity) hlow

/-- A greater number is not rounded to a smaller float. -/
theorem Rounds.mono (ha : Rounds x a) (hb : Rounds y b) (hle : x ≤ y) : a.Le b := by
  obtain ⟨em, e, hlow, hhigh, htells, ha⟩ := ha
  obtain ⟨em', f, hlow', hhigh', htells', hb⟩ := hb
  have hrange := htells.rounded_range hlow hhigh.le
  have hrange' := htells'.rounded_range hlow' hhigh'.le
  have hexponent : e ≤ f := by
    have hx : (2 : ℚ) ^ (e + 52) ≤ x := by
      rwa [le_div_iff₀ (by positivity), ← zpow_natCast, ← zpow_add₀ two_ne_zero, add_comm] at hlow
    have hy : y < (2 : ℚ) ^ (f + 53) := by
      rwa [div_lt_iff₀ (by positivity), ← zpow_natCast, ← zpow_add₀ two_ne_zero, add_comm] at hhigh'
    have hlt := (zpow_lt_zpow_iff_right₀ one_lt_two).mp (lt_of_le_of_lt (hx.trans hle) hy)
    omega
  have hmantissa : e = f → em.roundedMantissa ≤ em'.roundedMantissa := by
    rintro rfl
    exact htells.rounded_mono htells' (by gcongr)
  -- a carry gives the smallest mantissa with the next exponent
  have hfits := b.mantissa_lt
  unfold Le
  omega

theorem rounds_value (a : FullFloat) : Rounds a.value a := by
  have hvalue : a.value / 2 ^ a.exponent = a.mantissa := by
    rw [value, mul_div_cancel_right₀ _ (by positivity)]
  refine ⟨.ofMantissaAndAccuracy a.mantissa .exact, a.exponent, ?_, ?_, ?_, .inl ⟨rfl, rfl⟩⟩ <;>
    rw [hvalue]
  · exact_mod_cast a.le_mantissa
  · exact_mod_cast a.mantissa_lt
  · exact .of_exact a.mantissa

/-- A number that is a float is rounded to that float. -/
theorem Rounds.eq_of_value (h : Rounds a.value b) : b = a := by
  have hle := h.mono (rounds_value a) le_rfl
  have hge := (rounds_value a).mono h le_rfl
  obtain ⟨m, e, _, _, _, _⟩ := a
  obtain ⟨m', e', _, _, _, _⟩ := b
  simp only [Le] at hle hge
  simp only [mk.injEq]
  omega

/-- A number far from the limits of floats. -/
structure Moderate (x : ℚ) : Prop where
  low : 2 ^ (-100 : ℤ) ≤ x
  high : x ≤ 2 ^ (100 : ℤ)

theorem moderate_div (hm : 0 < m) (hm' : m < 2 ^ 53) (hn : 0 < n) (hn' : n < 2 ^ 53) :
    Moderate (m / n) := by
  have hone : (1 : ℚ) ≤ m := by exact_mod_cast hm
  have hone' : (1 : ℚ) ≤ n := by exact_mod_cast hn
  have hless : (m : ℚ) ≤ 2 ^ 53 := by exact_mod_cast hm'.le
  have hless' : (n : ℚ) ≤ 2 ^ 53 := by exact_mod_cast hn'.le
  constructor
  · rw [le_div_iff₀ (by linarith)]
    norm_num
    linarith
  · rw [div_le_iff₀ (by linarith)]
    norm_num
    linarith

/-! ### The rounding procedure -/

theorem mantissa_ofMantissaAndAccuracy (m : ℕ) (r : Accuracy) :
    (ExtendedMantissa.ofMantissaAndAccuracy m r).mantissa = m := by
  unfold ExtendedMantissa.ofMantissaAndAccuracy
  split <;> rfl

/-- A mantissa is cut down to full precision. -/
theorem shift_eq (r : Accuracy) (hlog : m.log2 = 52 + s) (hmin : -1074 ≤ e + s) :
    shiftToTargetExponent .binary64 m e r =
      (ExtendedMantissa.ofMantissaAndAccuracy m r >>> s, e + s) := by
  have htarget : Format.binary64.targetExponent (totalExponent m e) = e + s := by
    rw [totalExponent, hlog, targetExponent_eq (by omega)]
    omega
  have hshift : (e + (s : ℤ) - e).toNat = s := by omega
  simp only [shiftToTargetExponent, htarget, shiftToExponent, hshift]

/-- Rounding cuts down to full precision, rounds and cuts down once more. -/
theorem roundWithAccuracy_eq {r : Accuracy} {em em' : ExtendedMantissa} {f : ℤ}
    (hfirst : shiftToTargetExponent .binary64 m e r = (em, f))
    (hsecond : shiftToTargetExponent .binary64 em.roundedMantissa f .exact = (em', a.exponent))
    (hmantissa : em'.mantissa = a.mantissa) :
    roundWithAccuracy .binary64 .positive m e r = a.unpacked := by
  unfold roundWithAccuracy
  simp only [hfirst, hsecond, hmantissa]
  rw [dif_neg a.mantissa_pos.ne', unpacked]

/-- What is computed with enough bits is rounded to a float of full precision. -/
theorem exists_rounds {r : Accuracy} (hm : 2 ^ 52 ≤ m)
    (htells : Tells (.ofMantissaAndAccuracy m r) x) (hmoderate : Moderate (x * 2 ^ e)) :
    ∃ a : FullFloat, roundWithAccuracy .binary64 .positive m e r = a.unpacked ∧
      Rounds (x * 2 ^ e) a := by
  have hpos : m ≠ 0 := by omega
  obtain ⟨s, hs⟩ : ∃ s, m.log2 = 52 + s := Nat.exists_eq_add_of_le ((Nat.le_log2 hpos).mpr hm)
  obtain ⟨hleast, hmost⟩ := (Nat.log2_eq_iff hpos).mp hs
  obtain ⟨hfloor, hnext⟩ := htells.floor
  rw [mantissa_ofMantissaAndAccuracy] at hfloor hnext
  -- the number in units of the last place that is kept
  have hunit : x * 2 ^ e / 2 ^ (e + s) = x / 2 ^ s := by
    rw [zpow_add₀ two_ne_zero, zpow_natCast]
    field_simp
  have hbelow : (2 : ℚ) ^ 52 ≤ x / 2 ^ s := by
    rw [le_div_iff₀ (by positivity), ← pow_add]
    exact le_trans (by exact_mod_cast hleast) hfloor
  have habove : x / 2 ^ s < (2 : ℚ) ^ 53 := by
    rw [div_lt_iff₀ (by positivity), ← pow_add, show 53 + s = 52 + s + 1 by omega]
    exact lt_of_lt_of_le hnext (by exact_mod_cast hmost)
  have hmin : -153 < e + s := by
    have h : (2 : ℚ) ^ (-100 : ℤ) < 2 ^ (e + s + 53) := by
      rw [← hunit, div_lt_iff₀ (by positivity)] at habove
      rw [add_comm, zpow_add₀ two_ne_zero]
      exact lt_of_le_of_lt hmoderate.low habove
    have := (zpow_lt_zpow_iff_right₀ one_lt_two).mp h
    omega
  have hmax : e + s ≤ 48 := by
    have h : (2 : ℚ) ^ (e + s + 52) ≤ 2 ^ (100 : ℤ) := by
      rw [← hunit, le_div_iff₀ (by positivity)] at hbelow
      rw [add_comm, zpow_add₀ two_ne_zero]
      exact le_trans hbelow hmoderate.high
    have := (zpow_le_zpow_iff_right₀ one_lt_two).mp h
    omega
  have hkept := htells.shiftRight s
  obtain ⟨hrounded, hrounded'⟩ := hkept.rounded_range hbelow habove.le
  have hfirst := shift_eq r hs (by omega : -1074 ≤ e + s)
  have hrounds : ∀ a : FullFloat, _ → Rounds (x * 2 ^ e) a := fun a ha ↦
    ⟨_, e + s, hunit ▸ hbelow, hunit ▸ habove, hunit ▸ hkept, ha⟩
  obtain hfits | hcarries := hrounded'.lt_or_eq
  · have hlog := (Nat.log2_eq_iff (by omega)).mpr ⟨hrounded, hfits⟩
    let a : FullFloat := ⟨_, e + s, hrounded, hfits, by omega, by omega⟩
    have hsecond := shift_eq (s := 0) .exact hlog (by omega : -1074 ≤ e + s + (0 : ℕ))
    rw [Nat.cast_zero, add_zero] at hsecond
    exact ⟨a, roundWithAccuracy_eq hfirst hsecond rfl, hrounds a (.inl ⟨rfl, rfl⟩)⟩
  · let a : FullFloat := ⟨2 ^ 52, e + s + 1, le_rfl, by decide, by omega, by omega⟩
    have hlog := congrArg Nat.log2 hcarries
    rw [Nat.log2_two_pow] at hlog
    have hsecond := shift_eq (s := 1) .exact hlog (by omega : -1074 ≤ e + s + (1 : ℕ))
    refine ⟨a, roundWithAccuracy_eq hfirst hsecond ?_, hrounds a (.inr ⟨hcarries, rfl, rfl⟩)⟩
    rw [hcarries]
    rfl

/-- A number that is a float already is not changed by rounding. -/
theorem roundWithAccuracy_of_value (hm : 2 ^ 52 ≤ m) (hvalue : m * 2 ^ e = a.value)
    (hmoderate : Moderate a.value) :
    roundWithAccuracy .binary64 .positive m e .exact = a.unpacked := by
  obtain ⟨b, hb, hrounds⟩ := exists_rounds (e := e) hm (.of_exact m) (by rwa [hvalue])
  rw [hvalue] at hrounds
  rw [hb, hrounds.eq_of_value]

/-! ### Whole numbers, products and quotients -/

theorem log2_le_of_lt (hpos : 0 < n) (hlt : n < 2 ^ 53) : n.log2 ≤ 52 :=
  Nat.lt_succ_iff.mp ((Nat.log2_lt hpos.ne').mpr hlt)

/-- The float of a whole number. -/
def whole (n : ℕ) (hpos : 0 < n) (hlt : n < 2 ^ 53) : FullFloat where
  mantissa := n * 2 ^ (52 - n.log2)
  exponent := -(52 - n.log2 : ℕ)
  le_mantissa := calc
    2 ^ 52 = 2 ^ n.log2 * 2 ^ (52 - n.log2) := by
      rw [← pow_add, Nat.add_sub_cancel' (log2_le_of_lt hpos hlt)]
    _ ≤ n * 2 ^ (52 - n.log2) := Nat.mul_le_mul_right _ (Nat.log2_self_le hpos.ne')
  mantissa_lt := calc
    n * 2 ^ (52 - n.log2) < 2 ^ (n.log2 + 1) * 2 ^ (52 - n.log2) :=
      Nat.mul_lt_mul_of_pos_right Nat.lt_log2_self (Nat.two_pow_pos _)
    _ = 2 ^ (52 + 1) := by
      rw [← pow_add]
      have := log2_le_of_lt hpos hlt
      congr 1
      omega
  le_exponent := by omega
  exponent_le := by omega

theorem value_whole (hpos : 0 < n) (hlt : n < 2 ^ 53) : (whole n hpos hlt).value = n := by
  simp only [value, whole, zpow_neg, zpow_natCast]
  push_cast
  field_simp

theorem moderate_whole (hpos : 0 < n) (hlt : n < 2 ^ 53) :
    Moderate (whole n hpos hlt).value := by
  rw [value_whole]
  simpa using moderate_div hpos hlt Nat.one_pos (by norm_num)

theorem ofNat_unpacked (hpos : 0 < n) (hlt : n < 2 ^ 53) :
    UnpackedFloat.ofNat .binary64 n = (whole n hpos hlt).unpacked := by
  have hlog := log2_le_of_lt hpos hlt
  have hcompare : compare (n : ℤ) 0 = .gt := by
    rw [Int.compare_eq_gt]
    omega
  have htarget : Format.binary64.targetExponent (totalExponent n 0) = -(52 - n.log2 : ℕ) := by
    rw [totalExponent, targetExponent_eq (by omega)]
    omega
  simp only [UnpackedFloat.ofNat, UnpackedFloat.ofInt, UnpackedFloat.normalize, hcompare,
    Int.toNat_natCast, UnpackedFloat.round, htarget, decreaseExponent, Nat.shiftLeft_eq, zero_sub,
    neg_neg]
  exact roundWithAccuracy_of_value (whole n hpos hlt).le_mantissa rfl (moderate_whole hpos hlt)

/-- A product that is a float is exact. -/
theorem mul_unpacked (hvalue : a.value * b.value = c.value) (hmoderate : Moderate c.value) :
    UnpackedFloat.mul .binary64 a.unpacked b.unpacked = c.unpacked := by
  refine roundWithAccuracy_of_value (m := a.mantissa * b.mantissa) ?_ ?_ hmoderate
  · calc
      2 ^ 52 ≤ a.mantissa := a.le_mantissa
      _ ≤ a.mantissa * b.mantissa := Nat.le_mul_of_pos_right _ b.mantissa_pos
  · rw [← hvalue, value, value, zpow_add₀ two_ne_zero]
    push_cast
    ring

/-- A quotient is computed with 53 bits more than it has. -/
theorem divCore_eq (hmin : -1021 ≤ a.exponent - b.exponent) :
    divCore .binary64 a.mantissa a.exponent b.mantissa b.exponent =
      (a.mantissa * 2 ^ 53 / b.mantissa, a.exponent - b.exponent - 53,
        accuracyOfFraction (a.mantissa * 2 ^ 53 % b.mantissa) b.mantissa) := by
  have htotal : totalExponent a.mantissa a.exponent - totalExponent b.mantissa b.exponent =
      a.exponent - b.exponent := by
    rw [totalExponent, totalExponent, a.log2_mantissa, b.log2_mantissa]
    omega
  have htarget : min (a.exponent - b.exponent)
      (Format.binary64.targetExponent (a.exponent - b.exponent)) =
      a.exponent - b.exponent - 53 := by
    rw [targetExponent_eq hmin]
    omega
  have hshift : (a.exponent - b.exponent - (a.exponent - b.exponent - 53)).toNat = 53 := by omega
  simp only [divCore, htotal, htarget, hshift, Nat.shiftLeft_eq]

/-- A quotient is rounded once. -/
theorem exists_div (hmoderate : Moderate (a.value / b.value)) :
    ∃ c : FullFloat, UnpackedFloat.div .binary64 a.unpacked b.unpacked = c.unpacked ∧
      Rounds (a.value / b.value) c := by
  have hb : (0 : ℚ) < b.mantissa := Nat.cast_pos.mpr b.mantissa_pos
  have hvalue : ((a.mantissa * 2 ^ 53 : ℕ) : ℚ) / b.mantissa * 2 ^ (a.exponent - b.exponent - 53) =
      a.value / b.value := by
    rw [value, value, sub_sub, zpow_sub₀ two_ne_zero, zpow_add₀ two_ne_zero]
    push_cast
    field_simp
  have hexponent : -1021 ≤ a.exponent - b.exponent := by
    have h : (2 : ℚ) ^ (b.exponent - 48) < 2 ^ (a.exponent + 53) := calc
      (2 : ℚ) ^ (b.exponent - 48) = 2 ^ (-100 : ℤ) * (2 ^ (52 : ℤ) * 2 ^ b.exponent) := by
        rw [← zpow_add₀ two_ne_zero, ← zpow_add₀ two_ne_zero]
        congr 1
        ring
      _ ≤ 2 ^ (-100 : ℤ) * b.value := by
        rw [value]
        gcongr
        exact_mod_cast b.le_mantissa
      _ ≤ a.value := (le_div_iff₀ b.value_pos).mp hmoderate.low
      _ < 2 ^ (53 : ℤ) * 2 ^ a.exponent := by
        rw [value]
        gcongr
        exact_mod_cast a.mantissa_lt
      _ = 2 ^ (a.exponent + 53) := by rw [← zpow_add₀ two_ne_zero, add_comm]
    have := (zpow_lt_zpow_iff_right₀ one_lt_two).mp h
    omega
  have hbits : 2 ^ 52 ≤ a.mantissa * 2 ^ 53 / b.mantissa := by
    rw [Nat.le_div_iff_mul_le b.mantissa_pos]
    have := a.le_mantissa
    have := b.mantissa_lt
    omega
  obtain ⟨c, hc, hrounds⟩ := exists_rounds (e := a.exponent - b.exponent - 53) hbits
    (.fraction _ b.mantissa_pos) (by rwa [hvalue])
  rw [hvalue] at hrounds
  refine ⟨c, ?_, hrounds⟩
  rw [unpacked, unpacked, UnpackedFloat.div, divCore_eq hexponent]
  exact hc

/-! ### Comparing -/

/-- What a float of full precision is less than. -/
theorem lt_iff (a : FullFloat) (limit : UnpackedFloat) :
    UnpackedFloat.lt a.unpacked limit = true ↔
      limit = .infinity .positive ∨ ∃ m e h, limit = .finite .positive m e h ∧
        (a.exponent < e ∨ a.exponent = e ∧ a.mantissa < m) := by
  obtain (_ | _) | _ | _ | ⟨_ | _, m, e, h⟩ := limit <;>
    simp [UnpackedFloat.lt, UnpackedFloat.compare, unpacked]
  rw [Ordering.then_eq_lt, Int.compare_eq_lt, Int.compare_eq_eq, Nat.compare_eq_lt]
  exact (and_iff_right h).symm

theorem lt_of_not_le {h : 0 < m}
    (hle : ¬ UnpackedFloat.le (.finite .positive m e h) a.unpacked = true) :
    a.exponent < e ∨ a.exponent = e ∧ a.mantissa < m := by
  simp only [UnpackedFloat.le, UnpackedFloat.compare, unpacked, Option.any_some, Bool.not_eq_true,
    Ordering.isLE_eq_false, Ordering.then_eq_gt, Int.compare_eq_gt, Int.compare_eq_eq,
    Nat.compare_eq_gt] at hle
  omega

end FullFloat

/-- What zero is less than. -/
theorem zero_lt_iff (limit : UnpackedFloat) :
    UnpackedFloat.lt (.zero .positive) limit = true ↔
      limit = .infinity .positive ∨ ∃ m e h, limit = .finite .positive m e h := by
  obtain (_ | _) | _ | _ | ⟨_ | _, m, e, h⟩ := limit <;>
    simp [UnpackedFloat.lt, UnpackedFloat.compare]
  exact h

/-! ### Floats as they are stored -/

theorem float_lt_iff (x y : Float) :
    x < y ↔ UnpackedFloat.lt x.toModel.unpack y.toModel.unpack = true := by
  change x.lt y = true ↔ _
  rw [Float.lt, decide_eq_true_iff]
  rfl

theorem float_le_iff (x y : Float) :
    x ≤ y ↔ UnpackedFloat.le x.toModel.unpack y.toModel.unpack = true := by
  change x.le y = true ↔ _
  rw [Float.le, decide_eq_true_iff]
  rfl

/-- What is less than a float is not above it. -/
theorem float_not_le_of_lt {x y : Float} (h : x < y) : ¬ y ≤ x := by
  rw [float_lt_iff] at h
  rw [float_le_iff]
  generalize x.toModel.unpack = a at h ⊢
  generalize y.toModel.unpack = b at h ⊢
  obtain (_ | _) | (_ | _) | _ | ⟨_ | _, m, e, hm⟩ := a <;>
    obtain (_ | _) | (_ | _) | _ | ⟨_ | _, m', e', hm'⟩ := b <;>
    simp [UnpackedFloat.lt, UnpackedFloat.le, UnpackedFloat.compare, Ordering.then_eq_lt,
      Ordering.then_eq_gt, Int.compare_eq_lt, Int.compare_eq_gt, Nat.compare_eq_lt,
      Nat.compare_eq_gt] at h ⊢
  · rfl
  · omega
  · omega

open FullFloat

theorem unpack_mul {x y : Float} {a b c : FullFloat} (hx : x.toModel.unpack = a.unpacked)
    (hy : y.toModel.unpack = b.unpacked) (hvalue : a.value * b.value = c.value)
    (hmoderate : Moderate c.value) : (x * y).toModel.unpack = c.unpacked := by
  change (Float.Model.pack
    (UnpackedFloat.mul .binary64 x.toModel.unpack y.toModel.unpack)).unpack = c.unpacked
  rw [hx, hy, mul_unpacked hvalue hmoderate, unpack_pack]

/-- Whole numbers are floats. -/
theorem unpack_ofNat {n : ℕ} (hpos : 0 < n) (hlt : n < 2 ^ 53) :
    (Float.ofNat n).toModel.unpack = (whole n hpos hlt).unpacked := by
  have hone : (Float.ofBits 0x3FF0000000000000).toModel.unpack =
      (whole 1 Nat.one_pos (by decide)).unpacked := by rfl
  have hword : n.toUInt64.toFloat.toModel.unpack = (whole n hpos hlt).unpacked := by
    have hsame : n.toUInt64.toNat = n := by
      rw [Nat.toUInt64_eq, UInt64.toNat_ofNat']
      exact Nat.mod_eq_of_lt (by omega)
    change (Float.Model.pack (UnpackedFloat.ofNat .binary64 n.toUInt64.toNat)).unpack = _
    rw [hsame, ofNat_unpacked hpos hlt, unpack_pack]
  -- a whole number is written as itself times the power of ten without zeros
  have hofNat : Float.ofNat n = n.toUInt64.toFloat * Float.ofBits 0x3FF0000000000000 := by
    change Float.ofScientific n false 0 = _
    rw [Float.ofScientific, dif_pos ⟨hlt, by decide⟩]
    rfl
  rw [hofNat]
  refine unpack_mul hword hone ?_ (moderate_whole hpos hlt)
  rw [value_whole, value_whole, Nat.cast_one, mul_one]

/-- A float is a number that is not negative, rounded. -/
def RoundedTo (x : Float) (v : ℚ) : Prop :=
  v = 0 ∧ x.toModel.unpack = .zero .positive ∨
    ∃ a : FullFloat, x.toModel.unpack = a.unpacked ∧ a.Rounds v

namespace RoundedTo

variable {x y t : Float} {v w : ℚ}

/-- A quotient of whole numbers is rounded once. -/
theorem div {m n : ℕ} (hm : m < 2 ^ 53) (hn : 0 < n) (hn' : n < 2 ^ 53)
    (hzero : m = 0 → x.toModel.unpack = .zero .positive)
    (hpos : ∀ h, x.toModel.unpack = (whole m h hm).unpacked) :
    RoundedTo (x / Float.ofNat n) (m / n) := by
  have hdivisor := unpack_ofNat hn hn'
  have hquotient : (x / Float.ofNat n).toModel.unpack = (Float.Model.pack
      (UnpackedFloat.div .binary64 x.toModel.unpack (Float.ofNat n).toModel.unpack)).unpack := rfl
  obtain rfl | h := Nat.eq_zero_or_pos m
  · have hnothing : UnpackedFloat.div .binary64 (.zero .positive) (whole n hn hn').unpacked =
        .zero .positive := rfl
    refine .inl ⟨by simp, ?_⟩
    rw [hquotient, hzero rfl, hdivisor, hnothing]
    rfl
  · have hvalue : (whole m h hm).value / (whole n hn hn').value = m / n := by
      rw [value_whole, value_whole]
    obtain ⟨c, hc, hrounds⟩ := exists_div (by rw [hvalue]; exact moderate_div h hm hn hn')
    rw [hvalue] at hrounds
    refine .inr ⟨c, ?_, hrounds⟩
    rw [hquotient, hpos h, hdivisor, hc, unpack_pack]

/-- Where a greater number is rounded to less than a float, so is a smaller number. -/
theorem lt_of_le (hx : RoundedTo x v) (hy : RoundedTo y w) (hle : v ≤ w) (hlt : y < t) :
    x < t := by
  rw [float_lt_iff] at hlt ⊢
  obtain ⟨rfl, hx⟩ | ⟨a, hx, ha⟩ := hx <;> obtain ⟨rfl, hy⟩ | ⟨b, hy, hb⟩ := hy <;>
    rw [hx] <;> rw [hy] at hlt
  · exact hlt
  · rw [zero_lt_iff]
    obtain hinfinite | ⟨m, e, h, hfinite, -⟩ := (b.lt_iff _).mp hlt
    · exact .inl hinfinite
    · exact .inr ⟨m, e, h, hfinite⟩
  · exact absurd ha.pos (not_lt.mpr hle)
  · rw [a.lt_iff]
    obtain hinfinite | ⟨m, e, h, hfinite, hless⟩ := (b.lt_iff _).mp hlt
    · exact .inl hinfinite
    · have hle := ha.mono hb hle
      unfold FullFloat.Le at hle
      exact .inr ⟨m, e, h, hfinite, by omega⟩

/-- A rounded number is less than a positive float, or not less. -/
theorem lt_of_not_le (hx : RoundedTo x v) (ht : 0.0 < t) (hle : ¬ t ≤ x) : x < t := by
  have hnothing : (0.0 : Float).toModel.unpack = .zero .positive := by rfl
  rw [float_lt_iff, hnothing] at ht
  rw [float_le_iff] at hle
  rw [float_lt_iff]
  obtain ⟨-, hx⟩ | ⟨a, hx, -⟩ := hx <;> rw [hx]
  · exact ht
  · rw [a.lt_iff]
    obtain hinfinite | ⟨m, e, h, hfinite⟩ := (zero_lt_iff _).mp ht
    · exact .inl hinfinite
    · rw [hx, hfinite] at hle
      exact .inr ⟨m, e, h, hfinite, FullFloat.lt_of_not_le hle⟩

end RoundedTo

end Courier

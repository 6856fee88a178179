import Courier.Proofs.Magnitude

/-!
# The order of floats

`height` is how large a float is, whatever its sign: a rational number, or `⊤` if it is infinite or
not a number. An operation rounds the exact result (`Nearest`), and what is larger than floats can
be is stored as infinite (`clip`). Both keep the order (`Nearest.mono`, `clip_mono`), over the whole
range of floats, and rounding leaves a number near itself (`Nearest.close`).

So the height of a product, a quotient or a sum is the exact one, rounded and clipped
(`exists_floatHeight_mul`, `exists_floatHeight_div`, `exists_floatHeight_add`), products keep the
order (`floatHeight_mul_mono`), and floats without signs are compared by their heights
(`float_lt_iff_height`).
-/

set_option autoImplicit false
set_option relaxedAutoImplicit false

namespace Courier

open Float.Model Float.Model.UnpackedFloat

/-! ### Rounding -/

/-- A number is rounded, to a mantissa of full precision or with the least exponent. There is no
greatest exponent. -/
def Nearest (x v : ℚ) : Prop :=
  ∃ (em : ExtendedMantissa) (e : ℤ), -1074 ≤ e ∧ (2 ^ 52 ≤ x / 2 ^ e ∨ e = -1074) ∧
    x / 2 ^ e < 2 ^ 53 ∧ Tells em (x / 2 ^ e) ∧ v = em.roundedMantissa * 2 ^ e

namespace Nearest

variable {x y v w : ℚ}

/-- A greater number is not rounded to a smaller one. -/
theorem mono (hx : Nearest x v) (hy : Nearest y w) (hle : x ≤ y) : v ≤ w := by
  obtain ⟨em, e, hleast, hlow, hhigh, htells, rfl⟩ := hx
  obtain ⟨em', f, hleast', hlow', hhigh', htells', rfl⟩ := hy
  obtain hef | rfl | hfe := lt_trichotomy e f
  · have hfull : 2 ^ 52 ≤ y / 2 ^ f := hlow'.resolve_right (by omega)
    have hmost : (em.roundedMantissa : ℚ) ≤ 2 ^ 53 := by
      exact_mod_cast htells.rounded_mono (.of_exact (2 ^ 53)) (by exact_mod_cast hhigh.le)
    have hleast : (2 : ℚ) ^ 52 ≤ em'.roundedMantissa := by
      exact_mod_cast Tells.rounded_mono (.of_exact (2 ^ 52)) htells' (by exact_mod_cast hfull)
    calc
      (em.roundedMantissa : ℚ) * 2 ^ e ≤ 2 ^ 53 * 2 ^ e := by gcongr
      _ ≤ 2 ^ 52 * 2 ^ f := full_le_of_lt hef
      _ ≤ em'.roundedMantissa * 2 ^ f := by gcongr
  · gcongr
    exact_mod_cast htells.rounded_mono htells' (by gcongr)
  · -- a number with a greater exponent is greater
    have hfull : 2 ^ 52 ≤ x / 2 ^ e := hlow.resolve_right (by omega)
    rw [le_div_iff₀ (by positivity)] at hfull
    rw [div_lt_iff₀ (by positivity)] at hhigh'
    exact absurd hle (not_le_of_gt (hhigh'.trans_le ((full_le_of_lt hfe).trans hfull)))

/-- A float is rounded to itself. -/
theorem of_canonical {m : ℕ} {e : ℤ} (hlt : m < 2 ^ 53) (hle : -1074 ≤ e)
    (hfull : 2 ^ 52 ≤ m ∨ e = -1074) : Nearest (m * 2 ^ e) (m * 2 ^ e) := by
  have hvalue : (m : ℚ) * 2 ^ e / 2 ^ e = m := mul_div_cancel_right₀ _ (by positivity)
  refine ⟨.ofMantissaAndAccuracy m .exact, e, hle, ?_, ?_, ?_, rfl⟩
  · rw [hvalue]
    exact hfull.imp_left fun h ↦ by exact_mod_cast h
  · rw [hvalue]
    exact_mod_cast hlt
  · rw [hvalue]
    exact .of_exact m

/-- What is rounded of a number below a power of two is near it. -/
theorem close {k : ℤ} (h : Nearest x v) (hk : -1021 ≤ k) (hx : x < 2 ^ k) :
    |v - x| ≤ 2 ^ (k - 54) := by
  obtain ⟨em, e, hleast, hlow, -, htells, rfl⟩ := h
  have hexponent : e ≤ k - 53 := by
    obtain hfull | rfl := hlow
    · rw [le_div_iff₀ (by positivity)] at hfull
      have hpower : (2 : ℚ) ^ (52 + e) < 2 ^ k := by
        rw [zpow_add₀ two_ne_zero]
        exact lt_of_le_of_lt (by exact_mod_cast hfull) hx
      have := (zpow_lt_zpow_iff_right₀ one_lt_two).mp hpower
      omega
    · omega
  have hvalue : (em.roundedMantissa : ℚ) * 2 ^ e - x =
      (em.roundedMantissa - x / 2 ^ e) * 2 ^ e := by
    field_simp
  rw [hvalue, abs_mul, abs_of_pos (by positivity : (0 : ℚ) < 2 ^ e)]
  calc
    |(em.roundedMantissa : ℚ) - x / 2 ^ e| * 2 ^ e ≤ 1 / 2 * 2 ^ (k - 53) := by
      gcongr
      · exact htells.rounded_close
      · exact one_le_two
    _ = 2 ^ (k - 54) := by
      rw [show k - 53 = k - 54 + 1 by ring, zpow_add_one₀ two_ne_zero]
      ring

end Nearest

/-! ### Storing -/

variable {s : Sign} {m : ℕ} {e : ℤ} {x v w : ℚ}

/-- How large a float is. What is infinite or not a number is larger than any number. -/
def height : UnpackedFloat → WithTop ℚ
  | .zero _ => 0
  | .finite _ m e _ => (m * 2 ^ e : ℚ)
  | .infinity _ | .notANumber => ⊤

theorem height_nonneg (u : UnpackedFloat) : 0 ≤ height u := by
  cases u with
  | zero => exact le_rfl
  | finite s m e hm => exact WithTop.coe_le_coe.mpr (by positivity)
  | infinity | notANumber => exact le_top

theorem height_eq_top_iff {u : UnpackedFloat} :
    height u = ⊤ ↔ u = .notANumber ∨ ∃ s, u = .infinity s := by
  cases u with
  | zero | finite => exact ⟨fun h ↦ (WithTop.coe_ne_top h).elim, by simp⟩
  | infinity | notANumber => simp [height]

/-- What is stored of a number: nothing larger than floats can be. -/
def clip (v : ℚ) : WithTop ℚ := if v < 2 ^ (1024 : ℤ) then v else ⊤

theorem clip_of_lt (h : v < 2 ^ (1024 : ℤ)) : clip v = v := if_pos h

/-- What is far from the greatest float is stored as it is. -/
theorem clip_of_le (h : v ≤ 2 ^ (100 : ℤ)) : clip v = v :=
  clip_of_lt (h.trans_lt (zpow_lt_zpow_right₀ one_lt_two (by norm_num)))

theorem clip_zero : clip 0 = 0 := clip_of_lt (by positivity)

theorem clip_mono (h : v ≤ w) : clip v ≤ clip w := by
  unfold clip
  split_ifs with hv hw
  · exact WithTop.coe_le_coe.mpr h
  · exact le_top
  · exact absurd (lt_of_le_of_lt h ‹_›) hv
  · exact le_rfl

/-- With the least exponent all bits of the mantissa are stored. -/
theorem unpack_least (hm : 0 < m) (hlt : m < 2 ^ 52) :
    UnpackedFloat.unpack .binary64 (packComponents .binary64 s 0#11 (BitVec.ofNat 52 m)) =
      .finite s m (-1074) hm := by
  have hsign : Sign.ofBitVec s.toBitVec = s := by cases s <;> rfl
  have hones : (0#11) ≠ -1#11 := by decide
  have hmantissa : (BitVec.ofNat 52 m).toNat = m := by
    rw [BitVec.toNat_ofNat, Nat.mod_eq_of_lt hlt]
  have hzero : BitVec.ofNat 52 m ≠ 0#52 := by
    intro h
    rw [h] at hmantissa
    exact hm.ne hmantissa
  simp only [UnpackedFloat.unpack, unpackMantissa_packComponents, unpackExponent_packComponents,
    unpackSign_packComponents, hsign, if_neg hones, if_true, dif_neg hzero, hmantissa]
  rfl

/-- A float is stored as it is, unless its exponent is too great. -/
theorem unpack_pack_of_canonical (hm : 0 < m) (hlt : m < 2 ^ 53) (hle : -1074 ≤ e)
    (hfull : 2 ^ 52 ≤ m ∨ e = -1074) :
    (Float.Model.pack (.finite s m e hm)).unpack =
      if 971 < e then .infinity s else .finite s m e hm := by
  have hsign : Sign.ofBitVec s.toBitVec = s := by cases s <;> rfl
  have hbias : (Format.binary64.exponentBias : ℤ) = 1023 := rfl
  have hbits : Format.binary64.mantissaBits = 53 := rfl
  change UnpackedFloat.unpack .binary64 (UnpackedFloat.pack .binary64 _) = _
  simp only [UnpackedFloat.pack, hbias, hbits]
  obtain ⟨biased, hbiased⟩ : ∃ biased : ℕ, e + 1075 = biased := ⟨(e + 1075).toNat, by omega⟩
  have hpacked : (e + 1023 + (52 : ℕ)).toNat = biased := by omega
  rw [hpacked]
  by_cases hroom : 971 < e
  · rw [if_pos hroom, if_pos (show 2 ^ 11 ≤ biased + 1 by omega)]
    cases s <;> rfl
  · rw [if_neg hroom, if_neg (show ¬ 2 ^ 11 ≤ biased + 1 by omega)]
    by_cases hmost : 2 ^ 52 ≤ m
    · have hlog : m.log2 = 52 := (Nat.log2_eq_iff hm.ne').mpr ⟨hmost, hlt⟩
      have hmantissa : (1#1 ++ BitVec.ofNat 52 m).toNat = m := FullFloat.toNat_one_append hmost hlt
      have hexponent : (BitVec.ofNat 11 biased).toNat = biased := by
        rw [BitVec.toNat_ofNat]
        exact Nat.mod_eq_of_lt (by omega)
      have hones : BitVec.ofNat 11 biased ≠ -1#11 := by
        intro h
        have hall : (-1#11).toNat = 2047 := by decide
        rw [h] at hexponent
        omega
      have hzero : BitVec.ofNat 11 biased ≠ 0#11 := by
        intro h
        rw [h, BitVec.toNat_zero] at hexponent
        omega
      have hunpacked : (biased : ℤ) - (1023 + (52 : ℕ)) = e := by omega
      rw [if_pos (by rw [hlog])]
      simp only [UnpackedFloat.unpack, unpackMantissa_packComponents,
        unpackExponent_packComponents, unpackSign_packComponents, hbias, if_neg hones,
        if_neg hzero, hmantissa, hexponent, hunpacked, hsign]
    · have hlog : m.log2 < 52 := (Nat.log2_lt hm.ne').mpr (by omega)
      obtain rfl : e = -1074 := hfull.resolve_left hmost
      rw [if_neg (by omega)]
      exact unpack_least hm (by omega)

/-- What is stored of a float is as large as it is, unless that is too large. -/
theorem height_stored (hm : 0 < m) (hlt : m < 2 ^ 53) (hle : -1074 ≤ e)
    (hfull : 2 ^ 52 ≤ m ∨ e = -1074) :
    height (Float.Model.pack (.finite s m e hm)).unpack = clip (m * 2 ^ e) := by
  rw [unpack_pack_of_canonical hm hlt hle hfull]
  by_cases hroom : 971 < e
  · have hlarge : ¬ (m : ℚ) * 2 ^ e < 2 ^ (1024 : ℤ) := not_lt_of_ge <| calc
      (2 : ℚ) ^ (1024 : ℤ) = 2 ^ 53 * 2 ^ (971 : ℤ) := by
        rw [← zpow_natCast, ← zpow_add₀ two_ne_zero]
        norm_num
      _ ≤ 2 ^ 52 * 2 ^ e := full_le_of_lt hroom
      _ ≤ m * 2 ^ e := by
        gcongr
        exact_mod_cast hfull.resolve_right (by omega)
    rw [if_pos hroom, clip, if_neg hlarge]
    rfl
  · have hsmall : (m : ℚ) * 2 ^ e < 2 ^ (1024 : ℤ) := calc
      (m : ℚ) * 2 ^ e < 2 ^ 53 * 2 ^ e := by
        gcongr
        exact_mod_cast hlt
      _ ≤ 2 ^ 53 * 2 ^ (971 : ℤ) := by
        gcongr
        · exact one_le_two
        · omega
      _ = 2 ^ (1024 : ℤ) := by
        rw [← zpow_natCast, ← zpow_add₀ two_ne_zero]
        norm_num
    rw [if_neg hroom, clip_of_lt hsmall]
    rfl

theorem height_stored_zero (s : Sign) : height (Float.Model.pack (.zero s)).unpack = 0 := by
  cases s <;> rfl

/-- What is too large is stored as that. -/
theorem height_stored_of_top {u : UnpackedFloat} (h : height u = ⊤) :
    height (Float.Model.pack u).unpack = ⊤ := by
  obtain rfl | ⟨s, rfl⟩ := height_eq_top_iff.mp h
  · rfl
  · cases s <;> rfl

/-! ### The rounding procedure -/

/-- A mantissa with the exponent that it should have is cut down no more, unless it is the next
power of two. The number stays. -/
theorem carried_value (hle : m ≤ 2 ^ 53) (he : -1074 ≤ e) :
    ((shiftToTargetExponent .binary64 m e .exact).1.mantissa : ℚ) *
        2 ^ (shiftToTargetExponent .binary64 m e .exact).2 = m * 2 ^ e ∧
      (shiftToTargetExponent .binary64 m e .exact).1.mantissa < 2 ^ 53 ∧
      e ≤ (shiftToTargetExponent .binary64 m e .exact).2 ∧
      (2 ^ 52 ≤ m ∨ e = -1074 → 2 ^ 52 ≤ (shiftToTargetExponent .binary64 m e .exact).1.mantissa ∨
        (shiftToTargetExponent .binary64 m e .exact).2 = -1074) := by
  have hbits : Format.binary64.mantissaBits = 53 := rfl
  have hleast : Format.binary64.minExponent = -1074 := rfl
  simp only [shiftToTargetExponent, shiftToExponent, mantissa_shiftRight,
    FullFloat.mantissa_ofMantissaAndAccuracy]
  obtain hlt | rfl := hle.lt_or_eq
  · have hlog : m.log2 ≤ 52 := by
      obtain rfl | hpos := Nat.eq_zero_or_pos m
      · decide
      · exact FullFloat.log2_le_of_lt hpos hlt
    have hshift : (Format.binary64.targetExponent (totalExponent m e) - e).toNat = 0 := by
      simp only [Format.targetExponent, totalExponent, hbits, hleast]
      omega
    rw [hshift]
    simpa using hlt
  · have hshift : (Format.binary64.targetExponent (totalExponent (2 ^ 53) e) - e).toNat = 1 := by
      simp only [Format.targetExponent, totalExponent, hbits, hleast, Nat.log2_two_pow]
      omega
    have hvalue : (2 ^ 53 / 2 ^ 1 : ℕ) = 2 ^ 52 := by norm_num
    rw [hshift, hvalue]
    refine ⟨?_, by decide, by omega, fun _ ↦ .inl le_rfl⟩
    rw [Nat.cast_one, zpow_add_one₀ two_ne_zero]
    push_cast
    ring

/-- Full precision is enough bits, and so is the least exponent. -/
theorem le_targetExponent (h : 2 ^ 52 ≤ m ∨ e ≤ -1074) :
    e ≤ Format.binary64.targetExponent (totalExponent m e) := by
  have hbits : Format.binary64.mantissaBits = 53 := rfl
  have hleast : Format.binary64.minExponent = -1074 := rfl
  simp only [Format.targetExponent, totalExponent, hbits, hleast]
  obtain hfull | hleast := h
  · have hlog : 52 ≤ m.log2 := (Nat.le_log2 (by omega)).mpr hfull
    omega
  · omega

/-- What is computed with enough bits is rounded and stored. -/
theorem exists_nearest {r : Accuracy} (htells : Tells (.ofMantissaAndAccuracy m r) x)
    (hbits : e ≤ Format.binary64.targetExponent (totalExponent m e)) :
    ∃ v, Nearest (x * 2 ^ e) v ∧
      height (Float.Model.pack (roundWithAccuracy .binary64 s m e r)).unpack = clip v := by
  obtain ⟨k, hk⟩ : ∃ k : ℕ, Format.binary64.targetExponent (totalExponent m e) = e + k :=
    ⟨(Format.binary64.targetExponent (totalExponent m e) - e).toNat, by omega⟩
  have hlog : -1074 ≤ e + k ∧ (m.log2 = 52 + k ∨ m.log2 < 52 + k ∧ e + k = -1074) := by
    have hbits : Format.binary64.mantissaBits = 53 := rfl
    have hleast : Format.binary64.minExponent = -1074 := rfl
    simp only [Format.targetExponent, totalExponent, hbits, hleast] at hk
    omega
  have hfirst : shiftToTargetExponent .binary64 m e r =
      (ExtendedMantissa.ofMantissaAndAccuracy m r >>> k, e + k) := by
    have hshift : (e + (k : ℤ) - e).toNat = k := by omega
    simp only [shiftToTargetExponent, hk, shiftToExponent, hshift]
  have hkept := htells.shiftRight k
  obtain ⟨hfloor, hnext⟩ := htells.floor
  rw [FullFloat.mantissa_ofMantissaAndAccuracy] at hfloor hnext
  have hunit : x * 2 ^ e / 2 ^ (e + k) = x / 2 ^ k := by
    rw [zpow_add₀ two_ne_zero, zpow_natCast]
    field_simp
  have habove : x / 2 ^ k < 2 ^ 53 := by
    have hmost : m + 1 ≤ 2 ^ (53 + k) := by
      have hlt : m < 2 ^ (m.log2 + 1) := Nat.lt_log2_self
      have hpower : 2 ^ (m.log2 + 1) ≤ 2 ^ (53 + k) := Nat.pow_le_pow_right two_pos (by omega)
      omega
    rw [div_lt_iff₀ (by positivity), ← pow_add]
    exact lt_of_lt_of_le hnext (by exact_mod_cast hmost)
  have hbelow : 2 ^ 52 ≤ x / 2 ^ k ∨ e + k = -1074 := by
    refine hlog.2.imp (fun hfull ↦ ?_) And.right
    have hleast : 2 ^ (52 + k) ≤ m := by
      rw [← hfull]
      exact Nat.log2_self_le (by rintro rfl; simp at hfull; omega)
    rw [le_div_iff₀ (by positivity), ← pow_add]
    exact le_trans (by exact_mod_cast hleast) hfloor
  have hnearest : Nearest (x * 2 ^ e) _ :=
    ⟨_, e + k, hlog.1, by rwa [hunit], by rwa [hunit], by rwa [hunit], rfl⟩
  refine ⟨_, hnearest, ?_⟩
  generalize (ExtendedMantissa.ofMantissaAndAccuracy m r >>> k) = em at hfirst hkept
  have hrounded : em.roundedMantissa ≤ 2 ^ 53 := by
    exact_mod_cast hkept.rounded_mono (.of_exact (2 ^ 53)) (by exact_mod_cast habove.le)
  have hfull : 2 ^ 52 ≤ em.roundedMantissa ∨ e + k = -1074 :=
    hbelow.imp_left fun h ↦ Tells.rounded_mono (.of_exact (2 ^ 52)) hkept (by exact_mod_cast h)
  obtain ⟨hvalue, hlt, hle, hcarried⟩ := carried_value hrounded hlog.1
  unfold roundWithAccuracy
  simp only [hfirst]
  rw [← hvalue]
  split_ifs with hzero
  · rw [hzero, Nat.cast_zero, zero_mul, clip_zero, height_stored_zero]
  · exact height_stored _ hlt (hlog.1.trans hle) (hcarried hfull)

/-- What is computed with too few bits is rounded with more. -/
theorem exists_nearest_round (hm : 0 < m) :
    ∃ v, Nearest (m * 2 ^ e) v ∧
      height (Float.Model.pack (UnpackedFloat.round .binary64 s m e)).unpack = clip v := by
  unfold UnpackedFloat.round
  simp only
  generalize ht : Format.binary64.targetExponent (totalExponent m e) = t
  have hvalue := decreaseExponent_value m (min_le_left e t)
  simp only [decreaseExponent, Nat.shiftLeft_eq] at hvalue ⊢
  generalize hk : (e - t).toNat = k
  have hk' : (e - min e t).toNat = k := by omega
  have hexponent : min e t = e - k := by omega
  have htotal : totalExponent (m * 2 ^ k) (e - k) = totalExponent m e := by
    have hlog : (m * 2 ^ k).log2 = m.log2 + k := by
      rw [Nat.log2_eq_iff (by positivity), Nat.add_right_comm, pow_add, pow_add]
      exact ⟨Nat.mul_le_mul_right _ (Nat.log2_self_le hm.ne'),
        Nat.mul_lt_mul_of_pos_right Nat.lt_log2_self (Nat.two_pow_pos k)⟩
    simp only [totalExponent, hlog]
    omega
  rw [hk', hexponent] at hvalue
  rw [← hvalue]
  exact exists_nearest (.of_exact _) (by rw [htotal, ht]; omega)

theorem normalize_natCast (hm : 0 < m) :
    UnpackedFloat.normalize .binary64 m e s = UnpackedFloat.round .binary64 .positive m e := by
  have hcompare : compare (m : ℤ) 0 = .gt := by
    rw [Int.compare_eq_gt]
    omega
  rw [UnpackedFloat.normalize, hcompare, Int.toNat_natCast]

/-! ### Products, quotients and sums -/

/-- How large a float is as it is stored. -/
abbrev floatHeight (x : Float) : WithTop ℚ := height x.toModel.unpack

section Floats

variable {x y x' y' : Float} {a b : ℚ}

/-- What is not too large is nothing or a finite number. -/
theorem unpack_of_height (h : floatHeight x = a) :
    (∃ s, x.toModel.unpack = .zero s ∧ a = 0) ∨
      ∃ s m e hm, x.toModel.unpack = .finite s m e hm ∧ a = m * 2 ^ e ∧
        m < 2 ^ 53 ∧ -1074 ≤ e ∧ (2 ^ 52 ≤ m ∨ e = -1074) := by
  unfold floatHeight at h
  cases hu : x.toModel.unpack with
  | zero s =>
    rw [hu] at h
    exact .inl ⟨s, rfl, (WithTop.coe_injective h).symm⟩
  | finite s m e hm =>
    rw [hu] at h
    exact .inr ⟨s, m, e, hm, rfl, (WithTop.coe_injective h).symm, canonical hu⟩
  | infinity | notANumber =>
    rw [hu] at h
    cases h

theorem nearest_zero : Nearest 0 0 := by
  simpa using Nearest.of_canonical (m := 0) (e := -1074) (by norm_num) le_rfl (.inr rfl)

/-- A stored number has no exponent that is too great. -/
theorem exponent_le_of_finite {x : Float.Model} {hm : 0 < m} (h : x.unpack = .finite s m e hm) :
    e ≤ 971 := by
  have hbias : (Format.binary64.exponentBias : ℤ) = 1023 := rfl
  unfold Float.Model.unpack UnpackedFloat.unpack at h
  simp only [hbias] at h
  split_ifs at h with hones hinfinity hleast hnothing
  · rw [UnpackedFloat.finite.injEq] at h
    obtain ⟨-, -, rfl⟩ := h
    rw [hleast]
    decide
  · rw [UnpackedFloat.finite.injEq] at h
    obtain ⟨-, -, rfl⟩ := h
    have hall : (-1#11).toNat = 2047 := by decide
    generalize @unpackExponent .binary64 x.toBits.toBitVec = exponent at hones ⊢
    have hless : exponent.toNat ≠ 2047 := fun heq ↦
      hones (BitVec.eq_of_toNat_eq (heq.trans hall.symm))
    have hlt : exponent.toNat < 2 ^ 11 := exponent.isLt
    omega

/-- A stored number is rounded to itself and stored as it is. -/
theorem nearest_of_height (h : floatHeight x = a) : Nearest a a ∧ clip a = a := by
  obtain ⟨s, -, rfl⟩ | ⟨s, m, e, hm, hu, rfl, hlt, hle, hfull⟩ := unpack_of_height h
  · exact ⟨nearest_zero, clip_zero⟩
  · refine ⟨.of_canonical hlt hle hfull, ?_⟩
    rw [← height_stored (s := s) hm hlt hle hfull, unpack_pack_of_canonical hm hlt hle hfull,
      if_neg (not_lt_of_ge (exponent_le_of_finite hu))]
    rfl

/-- A product is rounded and stored. -/
theorem exists_floatHeight_mul (hx : floatHeight x = a) (hy : floatHeight y = b) :
    ∃ v, Nearest (a * b) v ∧ floatHeight (x * y) = clip v := by
  have hproduct : floatHeight (x * y) = height (Float.Model.pack
      (UnpackedFloat.mul .binary64 x.toModel.unpack y.toModel.unpack)).unpack := rfl
  have hnothing (h : a = 0 ∨ b = 0) (s : Sign) :
      ∃ v, Nearest (a * b) v ∧ height (Float.Model.pack (.zero s)).unpack = clip v := by
    rw [mul_eq_zero.mpr h]
    exact ⟨0, nearest_zero, by rw [clip_zero, height_stored_zero]⟩
  rw [hproduct]
  obtain ⟨s, hu, rfl⟩ | ⟨s, m, e, hm, hu, rfl, hlt, hle, hfull⟩ := unpack_of_height hx <;>
    obtain ⟨s', hv, rfl⟩ | ⟨s', m', e', hm', hv, rfl, hlt', hle', hfull'⟩ := unpack_of_height hy <;>
    rw [hu, hv]
  · exact hnothing (.inl rfl) _
  · exact hnothing (.inl rfl) _
  · exact hnothing (.inr rfl) _
  · have hvalue : (m : ℚ) * 2 ^ e * (m' * 2 ^ e') = (m * m' : ℕ) * 2 ^ (e + e') := by
      rw [zpow_add₀ two_ne_zero]
      push_cast
      ring
    rw [hvalue]
    refine exists_nearest (.of_exact _) (le_targetExponent ?_)
    obtain hmost | hleast := hfull
    · exact .inl (hmost.trans (Nat.le_mul_of_pos_right m hm'))
    · obtain hmost' | hleast' := hfull'
      · exact .inl (hmost'.trans (Nat.le_mul_of_pos_left m' hm))
      · exact .inr (by omega)

/-- A product with what is too large is too large. -/
theorem floatHeight_mul_of_top (h : floatHeight x = ⊤ ∨ floatHeight y = ⊤) :
    floatHeight (x * y) = ⊤ := by
  have hproduct : floatHeight (x * y) = height (Float.Model.pack
      (UnpackedFloat.mul .binary64 x.toModel.unpack y.toModel.unpack)).unpack := rfl
  rw [hproduct]
  refine height_stored_of_top ?_
  unfold floatHeight at h
  generalize x.toModel.unpack = u at h ⊢
  generalize y.toModel.unpack = v at h ⊢
  rw [height_eq_top_iff, height_eq_top_iff] at h
  obtain (rfl | ⟨s, rfl⟩) | (rfl | ⟨s, rfl⟩) := h
  · rfl
  · cases v <;> rfl
  · cases u <;> rfl
  · cases u <;> rfl

/-- The product of larger floats is not smaller. -/
theorem floatHeight_mul_mono (hx : floatHeight x ≤ floatHeight x')
    (hy : floatHeight y ≤ floatHeight y') : floatHeight (x * y) ≤ floatHeight (x' * y') := by
  by_cases htop : floatHeight x' = ⊤ ∨ floatHeight y' = ⊤
  · rw [floatHeight_mul_of_top htop]
    exact le_top
  · obtain ⟨hx', hy'⟩ := not_or.mp htop
    obtain ⟨a', ha'⟩ := WithTop.ne_top_iff_exists.mp hx'
    obtain ⟨b', hb'⟩ := WithTop.ne_top_iff_exists.mp hy'
    obtain ⟨a, ha⟩ := WithTop.ne_top_iff_exists.mp (ne_top_of_le_ne_top hx' hx)
    obtain ⟨b, hb⟩ := WithTop.ne_top_iff_exists.mp (ne_top_of_le_ne_top hy' hy)
    obtain ⟨v, hv, hproduct⟩ := exists_floatHeight_mul ha.symm hb.symm
    obtain ⟨w, hw, hproduct'⟩ := exists_floatHeight_mul ha'.symm hb'.symm
    rw [← ha, ← ha', WithTop.coe_le_coe] at hx
    rw [← hb, ← hb', WithTop.coe_le_coe] at hy
    rw [hproduct, hproduct']
    have hnonneg : 0 ≤ b := WithTop.coe_le_coe.mp (hb ▸ height_nonneg _)
    have hnonneg' : 0 ≤ a' := WithTop.coe_le_coe.mp (ha' ▸ height_nonneg _)
    exact clip_mono (hv.mono hw (mul_le_mul hx hy hnonneg hnonneg'))

/-- A quotient is computed with enough bits. -/
theorem le_targetExponent_divCore {m' : ℕ} {e' : ℤ} (hm : 0 < m) (hm' : 0 < m') :
    (divCore .binary64 m e m' e').2.1 ≤ Format.binary64.targetExponent
      (totalExponent (divCore .binary64 m e m' e').1 (divCore .binary64 m e m' e').2.1) := by
  simp only [divCore]
  generalize htotal : totalExponent m e - totalExponent m' e' = total
  generalize ht : min (e - e') (Format.binary64.targetExponent total) = t
  generalize hk : (e - e' - t).toNat = k
  -- the quotient has at least as many bits as its parts let expect
  have hquotient : total ≤ totalExponent (m <<< k / m') t := by
    have hleast : m.log2 + k ≤ (m <<< k / m').log2 + m'.log2 + 1 := by
      by_contra hless
      have hlow : 2 ^ m.log2 ≤ m := Nat.log2_self_le hm.ne'
      have hhigh : m' < 2 ^ (m'.log2 + 1) := Nat.lt_log2_self
      have hquotient : 2 ^ ((m <<< k / m').log2 + 1) ≤ m <<< k / m' := by
        rw [Nat.le_div_iff_mul_le hm']
        calc
          2 ^ ((m <<< k / m').log2 + 1) * m' ≤
              2 ^ ((m <<< k / m').log2 + 1) * 2 ^ (m'.log2 + 1) :=
            Nat.mul_le_mul_left _ hhigh.le
          _ = 2 ^ ((m <<< k / m').log2 + 1 + (m'.log2 + 1)) := (pow_add ..).symm
          _ ≤ 2 ^ (m.log2 + k) := Nat.pow_le_pow_right two_pos (by omega)
          _ = 2 ^ m.log2 * 2 ^ k := pow_add ..
          _ ≤ m * 2 ^ k := Nat.mul_le_mul_right _ hlow
          _ = m <<< k := (Nat.shiftLeft_eq m k).symm
      exact absurd Nat.lt_log2_self (Nat.not_lt_of_le hquotient)
    simp only [totalExponent] at htotal ⊢
    omega
  have hbits : Format.binary64.mantissaBits = 53 := rfl
  have hleast : Format.binary64.minExponent = -1074 := rfl
  simp only [Format.targetExponent, hbits, hleast] at ht ⊢
  omega

/-- A quotient is rounded and stored. -/
theorem exists_floatHeight_div (hx : floatHeight x = a) (hy : floatHeight y = b) (hb : b ≠ 0) :
    ∃ v, Nearest (a / b) v ∧ floatHeight (x / y) = clip v := by
  have hquotient : floatHeight (x / y) = height (Float.Model.pack
      (UnpackedFloat.div .binary64 x.toModel.unpack y.toModel.unpack)).unpack := rfl
  rw [hquotient]
  obtain ⟨s', hv, rfl⟩ | ⟨s', m', e', hm', hv, rfl, -, -, -⟩ := unpack_of_height hy
  · exact absurd rfl hb
  obtain ⟨s, hu, rfl⟩ | ⟨s, m, e, hm, hu, rfl, -, -, -⟩ := unpack_of_height hx <;> rw [hu, hv]
  · have hnothing : UnpackedFloat.div .binary64 (.zero s) (.finite s' m' e' hm') = .zero (s / s') :=
      rfl
    rw [zero_div, hnothing]
    exact ⟨0, nearest_zero, by rw [clip_zero, height_stored_zero]⟩
  · have hbits : (divCore .binary64 m e m' e').2.1 ≤ Format.binary64.targetExponent
        (totalExponent (divCore .binary64 m e m' e').1 (divCore .binary64 m e m' e').2.1) :=
      le_targetExponent_divCore hm hm'
    have htells : Tells (.ofMantissaAndAccuracy (divCore .binary64 m e m' e').1
        (divCore .binary64 m e m' e').2.2) _ := Tells.fraction _ hm'
    have hvalue : (m : ℚ) * 2 ^ e / (m' * 2 ^ e') =
        ((m <<< (e - e' - (divCore .binary64 m e m' e').2.1).toNat : ℕ) : ℚ) / m' *
          2 ^ (divCore .binary64 m e m' e').2.1 := by
      have hexponent : (divCore .binary64 m e m' e').2.1 ≤ e - e' := min_le_left _ _
      generalize (divCore .binary64 m e m' e').2.1 = t at hexponent
      have hm'' : (m' : ℚ) ≠ 0 := Nat.cast_ne_zero.mpr hm'.ne'
      have hshift := decreaseExponent_value m hexponent
      simp only [decreaseExponent] at hshift
      rw [div_mul_eq_mul_div, hshift, zpow_sub₀ two_ne_zero]
      field_simp
    rw [hvalue]
    exact exists_nearest htells hbits

/-- A sum of floats without signs is rounded and stored. -/
theorem exists_floatHeight_add (hx : floatHeight x = a) (hy : floatHeight y = b)
    (hx' : FloatUnsigned x) (hy' : FloatUnsigned y) :
    ∃ v, Nearest (a + b) v ∧ floatHeight (x + y) = clip v := by
  have hsum : floatHeight (x + y) = height (Float.Model.pack
      (UnpackedFloat.add .binary64 x.toModel.unpack y.toModel.unpack)).unpack := rfl
  rw [hsum]
  unfold FloatUnsigned at hx' hy'
  obtain ⟨s, hu, rfl⟩ | ⟨s, m, e, hm, hu, rfl, hlt, hle, hfull⟩ := unpack_of_height hx <;>
    obtain ⟨s', hv, rfl⟩ | ⟨s', m', e', hm', hv, rfl, hlt', hle', hfull'⟩ := unpack_of_height hy <;>
    rw [hu] at hx' ⊢ <;> rw [hv] at hy' ⊢ <;> obtain rfl : s = .positive := hx' <;>
    obtain rfl : s' = .positive := hy'
  · rw [zero_add]
    exact ⟨0, nearest_zero, by rw [clip_zero]; exact height_stored_zero .positive⟩
  · rw [zero_add]
    exact ⟨_, .of_canonical hlt' hle' hfull', height_stored hm' hlt' hle' hfull'⟩
  · rw [add_zero]
    exact ⟨_, .of_canonical hlt hle hfull, height_stored hm hlt hle hfull⟩
  · have hvalue : (m : ℚ) * 2 ^ e + m' * 2 ^ e' =
        ((decreaseExponent m e (min e e')).1 + (decreaseExponent m' e' (min e e')).1 : ℕ) *
          2 ^ min e e' := by
      push_cast
      rw [add_mul, decreaseExponent_value m (min_le_left e e'),
        decreaseExponent_value m' (min_le_right e e')]
    have hpos :
        0 < (decreaseExponent m e (min e e')).1 + (decreaseExponent m' e' (min e e')).1 := by
      simp only [decreaseExponent, Nat.shiftLeft_eq]
      positivity
    rw [hvalue]
    simp only [UnpackedFloat.add, Sign.apply]
    rw [← Nat.cast_add, normalize_natCast hpos]
    exact exists_nearest_round hpos

/-- A whole number is as large as it says. -/
theorem floatHeight_ofNat {n : ℕ} (h : n < 2 ^ 53) : floatHeight (Float.ofNat n) = (n : ℚ) := by
  obtain rfl | hpos := Nat.eq_zero_or_pos n
  · rfl
  · rw [floatHeight, unpack_ofNat hpos h, ← FullFloat.value_whole hpos h]
    rfl

theorem floatHeight_one : floatHeight 1.0 = (1 : ℚ) := by
  have hone : (1.0 : Float) = Float.ofNat 1 := by decide +kernel
  rw [hone, floatHeight_ofNat (by norm_num), Nat.cast_one]

/-- One is rounded to one. -/
theorem nearest_one : Nearest 1 1 := by
  have hone : ((2 ^ 52 : ℕ) : ℚ) * 2 ^ (-52 : ℤ) = 1 := by norm_num
  rw [← hone]
  exact .of_canonical (by norm_num) (by norm_num) (.inl le_rfl)

/-- A product with one is as large as the other factor. -/
theorem floatHeight_one_mul (x : Float) : floatHeight (1.0 * x) = floatHeight x := by
  by_cases htop : floatHeight x = ⊤
  · rw [htop, floatHeight_mul_of_top (.inr htop)]
  · obtain ⟨a, ha⟩ := WithTop.ne_top_iff_exists.mp htop
    obtain ⟨v, hv, hproduct⟩ := exists_floatHeight_mul floatHeight_one ha.symm
    rw [one_mul] at hv
    obtain ⟨hself, hclip⟩ := nearest_of_height ha.symm
    rw [hproduct, ← ha, le_antisymm (hv.mono hself le_rfl) (hself.mono hv le_rfl), hclip]

/-! ### Numbers -/

theorem isNaN_roundWithAccuracy {r : Accuracy} :
    (roundWithAccuracy .binary64 s m e r).isNaN = false := by
  unfold roundWithAccuracy
  simp only
  split <;> rfl

/-- What is stored of a number is a number. -/
theorem isNaN_stored {u : UnpackedFloat} (h : u.isNaN = false) :
    (Float.Model.pack u).unpack.isNaN = false := by
  cases u with
  | notANumber => cases h
  | infinity s | zero s => cases s <;> rfl
  | finite s m e hm =>
    have hstored := stored s m e hm
    generalize (Float.Model.pack (.finite s m e hm)).unpack = w at hstored ⊢
    cases hstored <;> rfl

/-- A whole number is a number, how large it may be. -/
theorem isNaN_ofNat (n : ℕ) : (Float.ofNat n).isNaN = false := by
  change (Float.ofNat n).toModel.unpack.isNaN = false
  by_cases hlt : n < 2 ^ 53
  · obtain rfl | hpos := Nat.eq_zero_or_pos n
    · rfl
    · rw [unpack_ofNat hpos hlt]
      rfl
  · obtain ⟨m, e, hm, m', e', hm', hproduct⟩ := exists_product_of_large hlt
    rw [hproduct]
    exact isNaN_stored isNaN_roundWithAccuracy

/-- A sum of numbers without signs is a number. -/
theorem isNaN_add (hx : FloatUnsigned x) (hy : FloatUnsigned y) (hnumber : x.isNaN = false)
    (hnumber' : y.isNaN = false) : (x + y).isNaN = false := by
  change x.toModel.unpack.isNaN = false at hnumber
  change y.toModel.unpack.isNaN = false at hnumber'
  change (Float.Model.pack
    (UnpackedFloat.add .binary64 x.toModel.unpack y.toModel.unpack)).unpack.isNaN = false
  refine isNaN_stored ?_
  unfold FloatUnsigned at hx hy
  generalize x.toModel.unpack = u at hx hnumber ⊢
  generalize y.toModel.unpack = v at hy hnumber' ⊢
  cases u with
  | notANumber => cases hnumber
  | infinity s | zero s =>
    obtain rfl : s = .positive := hx
    cases v with
    | notANumber => cases hnumber'
    | infinity s' | zero s' | finite s' =>
      obtain rfl : s' = .positive := hy
      rfl
  | finite s m e hm =>
    cases v with
    | notANumber => cases hnumber'
    | infinity | zero => rfl
    | finite s' m' e' hm' =>
      simp only [UnpackedFloat.add, UnpackedFloat.normalize, UnpackedFloat.round]
      split <;> first | rfl | exact isNaN_roundWithAccuracy

/-! ### Comparison -/

/-- Positive floats are compared by their exponents first. -/
theorem lex_iff_value_lt {m' : ℕ} {e' : ℤ} (hlt : m < 2 ^ 53) (hlt' : m' < 2 ^ 53)
    (hle : -1074 ≤ e) (hle' : -1074 ≤ e') (hfull : 2 ^ 52 ≤ m ∨ e = -1074)
    (hfull' : 2 ^ 52 ≤ m' ∨ e' = -1074) :
    e < e' ∨ e = e' ∧ m < m' ↔ (m : ℚ) * 2 ^ e < m' * 2 ^ e' := by
  constructor
  · rintro (hless | ⟨rfl, hless⟩)
    · calc
        (m : ℚ) * 2 ^ e < 2 ^ 53 * 2 ^ e := by
          gcongr
          exact_mod_cast hlt
        _ ≤ 2 ^ 52 * 2 ^ e' := full_le_of_lt hless
        _ ≤ m' * 2 ^ e' := by
          gcongr
          exact_mod_cast hfull'.resolve_right (by omega)
    · gcongr
  · intro hless
    by_contra hnot
    exact absurd hless (not_lt_of_ge (value_le_of_lex hlt' hle' hfull (by omega)))

/-- Floats without signs are compared by how large they are. -/
theorem float_lt_iff_height (hx : FloatUnsigned x) (hy : FloatUnsigned y)
    (hnumber : y.isNaN = false) : x < y ↔ floatHeight x < floatHeight y := by
  change y.toModel.unpack.isNaN = false at hnumber
  rw [float_lt_iff]
  unfold FloatUnsigned at hx hy
  unfold floatHeight
  have hcanonical {m : ℕ} {e : ℤ} (hm : 0 < m) : (0 : WithTop ℚ) < (m * 2 ^ e : ℚ) :=
    WithTop.coe_lt_coe.mpr (by positivity)
  cases hu : x.toModel.unpack with
  | notANumber => simp [height, UnpackedFloat.lt, UnpackedFloat.compare]
  | infinity s =>
    obtain rfl : s = .positive := by rwa [hu] at hx
    cases hv : y.toModel.unpack with
    | notANumber => rw [hv] at hnumber; cases hnumber
    | infinity s' | zero s' | finite s' =>
      obtain rfl : s' = .positive := by rwa [hv] at hy
      simp [height, UnpackedFloat.lt, UnpackedFloat.compare]
  | zero s =>
    obtain rfl : s = .positive := by rwa [hu] at hx
    cases hv : y.toModel.unpack with
    | notANumber => rw [hv] at hnumber; cases hnumber
    | infinity s' | zero s' =>
      obtain rfl : s' = .positive := by rwa [hv] at hy
      simp [height, UnpackedFloat.lt, UnpackedFloat.compare]
    | finite s' m' e' hm' =>
      obtain rfl : s' = .positive := by rwa [hv] at hy
      exact iff_of_true rfl (hcanonical hm')
  | finite s m e hm =>
    obtain rfl : s = .positive := by rwa [hu] at hx
    cases hv : y.toModel.unpack with
    | notANumber => rw [hv] at hnumber; cases hnumber
    | infinity s' =>
      obtain rfl : s' = .positive := by rwa [hv] at hy
      exact iff_of_true rfl (WithTop.coe_lt_top _)
    | zero s' =>
      obtain rfl : s' = .positive := by rwa [hv] at hy
      exact iff_of_false Bool.false_ne_true (not_lt_of_gt (hcanonical hm))
    | finite s' m' e' hm' =>
      obtain rfl : s' = .positive := by rwa [hv] at hy
      obtain ⟨hlt, hle, hfull⟩ := canonical hu
      obtain ⟨hlt', hle', hfull'⟩ := canonical hv
      rw [height, height, WithTop.coe_lt_coe, ← lex_iff_value_lt hlt hlt' hle hle' hfull hfull']
      simp only [UnpackedFloat.lt, UnpackedFloat.compare, beq_iff_eq, Option.some.injEq,
        Ordering.then_eq_lt, Int.compare_eq_lt, Int.compare_eq_eq, Nat.compare_eq_lt]

end Floats

end Courier

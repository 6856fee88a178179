import Courier.Proofs.Rounding

/-!
# How far from zero floats are

Bounds for what the arithmetic of floats comes to, where the last place does not matter: an
operation rounds to at most twice the exact result. `Within` says that a float is a number not
further from zero than a bound, and `Unsigned` that it is not negative if it is a number at all.

Rounding doubles at most (`within_roundWithAccuracy`), so products and sums are bounded by the
bounds of their parts (`Within.mul`, `Within.add`). Storing a float may lose it to infinity only far
beyond any bound used here (`stored`, `Within.stored`). Stored floats are canonical, so a float
between two others is bounded by their bounds (`Within.between`). `FloatWithin` and `FloatUnsigned`
say the same of floats as they are stored.
-/

set_option autoImplicit false
set_option relaxedAutoImplicit false

namespace Courier

open Float.Model Float.Model.UnpackedFloat

/-! ### Rounding -/

variable {s : Sign} {m m' : ℕ} {e e' : ℤ} {b c : ℚ} {u v : UnpackedFloat}

/-- A number computed with is not further from zero than a bound. -/
def Within (b : ℚ) : UnpackedFloat → Prop
  | .zero _ => True
  | .finite _ m e _ => m * 2 ^ e ≤ b
  | _ => False

theorem Within.mono (h : Within b u) (hle : b ≤ c) : Within c u := by
  cases u with
  | zero => trivial
  | finite => exact le_trans h hle
  | infinity | notANumber => exact h.elim

theorem mantissa_shiftRight (em : ExtendedMantissa) (n : ℕ) :
    (em >>> n).mantissa = em.mantissa / 2 ^ n := by
  change (n.repeat ExtendedMantissa.shiftRightOne em).mantissa = _
  induction n with
  | zero => simp [Nat.repeat]
  | succ n ih =>
    rw [Nat.repeat, pow_succ, ← Nat.div_div_eq_div_mul, ← ih]
    rfl

/-- Cutting bits off does not lead away from zero. -/
theorem shifted_le (m n : ℕ) (e : ℤ) : ((m / 2 ^ n : ℕ) : ℚ) * 2 ^ (e + n) ≤ m * 2 ^ e := by
  have hdiv : ((m / 2 ^ n : ℕ) : ℚ) * 2 ^ n ≤ m := by exact_mod_cast Nat.div_mul_le_self m (2 ^ n)
  calc
    ((m / 2 ^ n : ℕ) : ℚ) * 2 ^ (e + n) = (m / 2 ^ n : ℕ) * 2 ^ n * 2 ^ e := by
      rw [zpow_add₀ two_ne_zero, zpow_natCast]
      ring
    _ ≤ m * 2 ^ e := by gcongr

/-- Rounding doubles at most what is not too small. -/
theorem rounded_shifted_le (hm : 0 < m) (hle : m * 2 ^ e ≤ b) (hb : 1 ≤ b) :
    ((shiftToTargetExponent .binary64 m e .exact).1.roundedMantissa : ℚ) *
      2 ^ (shiftToTargetExponent .binary64 m e .exact).2 ≤ 2 * b := by
  simp only [shiftToTargetExponent, shiftToExponent]
  generalize hn : (Format.binary64.targetExponent (totalExponent m e) - e).toNat = n
  have hmantissa := mantissa_shiftRight (.ofMantissaAndAccuracy m .exact) n
  rw [FullFloat.mantissa_ofMantissaAndAccuracy] at hmantissa
  have hnext := (Tells.rounded_bounds (ExtendedMantissa.ofMantissaAndAccuracy m .exact >>> n)).2
  have hshifted := shifted_le m n e
  rw [hmantissa] at hnext
  obtain rfl | hpos := Nat.eq_zero_or_pos n
  · have hsame : (ExtendedMantissa.ofMantissaAndAccuracy m .exact >>> 0).roundedMantissa = m := rfl
    rw [hsame, Nat.cast_zero, add_zero]
    linarith
  · obtain hzero | hone := Nat.eq_zero_or_pos (m / 2 ^ n)
    · -- nothing is left: the last place is as small as it can be
      have hlt : m < 2 ^ n := (Nat.div_eq_zero_iff_lt (Nat.two_pow_pos n)).mp hzero
      have hlog : m.log2 < n := (Nat.log2_lt hm.ne').mpr hlt
      have hleast : Format.binary64.minExponent = -1074 := rfl
      have hbits : Format.binary64.mantissaBits = 53 := rfl
      have hexponent : e + n = -1074 := by
        simp only [Format.targetExponent, totalExponent, hleast, hbits] at hn
        omega
      rw [hzero, zero_add] at hnext
      rw [hexponent]
      calc
        _ ≤ (1 : ℚ) * 2 ^ (-1074 : ℤ) := by
          gcongr
          exact_mod_cast hnext
        _ ≤ 1 * 1 := by
          gcongr
          exact zpow_le_one_of_nonpos₀ one_le_two (by norm_num)
        _ ≤ 2 * b := by linarith
    · calc
        _ ≤ ((2 * (m / 2 ^ n) : ℕ) : ℚ) * 2 ^ (e + n) := by
          gcongr
          omega
        _ = 2 * ((m / 2 ^ n : ℕ) * 2 ^ (e + n)) := by
          push_cast
          ring
        _ ≤ 2 * b := by linarith

theorem within_roundWithAccuracy (hm : 0 < m) (hle : m * 2 ^ e ≤ b) (hb : 1 ≤ b) :
    Within (2 * b) (roundWithAccuracy .binary64 s m e .exact) := by
  have hrounded := rounded_shifted_le hm hle hb
  unfold roundWithAccuracy
  simp only
  split
  · trivial
  · refine le_trans ?_ hrounded
    simp only [shiftToTargetExponent, shiftToExponent, mantissa_shiftRight,
      FullFloat.mantissa_ofMantissaAndAccuracy]
    exact shifted_le _ _ _

theorem within_round (hm : 0 < m) (hle : m * 2 ^ e ≤ b) (hb : 1 ≤ b) :
    Within (2 * b) (UnpackedFloat.round .binary64 s m e) := by
  unfold UnpackedFloat.round decreaseExponent
  refine within_roundWithAccuracy ?_ ?_ hb
  · rw [Nat.shiftLeft_eq]
    positivity
  · rw [Nat.shiftLeft_eq]
    push_cast
    rw [zpow_sub₀ two_ne_zero, zpow_natCast]
    field_simp
    exact hle

theorem within_normalize {i : ℤ} (hle : (i.natAbs : ℚ) * 2 ^ e ≤ b) (hb : 1 ≤ b) :
    Within (2 * b) (UnpackedFloat.normalize .binary64 i e s) := by
  unfold UnpackedFloat.normalize
  split
  · rename_i hcompare
    rw [Int.compare_eq_lt] at hcompare
    exact within_round (by omega) (by rwa [show (-i).toNat = i.natAbs by omega]) hb
  · trivial
  · rename_i hcompare
    rw [Int.compare_eq_gt] at hcompare
    exact within_round (by omega) (by rwa [show i.toNat = i.natAbs by omega]) hb

theorem Within.mul (hu : Within b u) (hv : Within c v) (hb : 1 ≤ b) (hc : 1 ≤ c) :
    Within (2 * (b * c)) (UnpackedFloat.mul .binary64 u v) := by
  obtain _ | _ | _ | ⟨_, m, e, hm⟩ := u <;> obtain _ | _ | _ | ⟨_, m', e', hm'⟩ := v <;>
    simp only [Within, UnpackedFloat.mul] at hu hv ⊢
  refine within_roundWithAccuracy (Nat.mul_pos hm hm') ?_ (one_le_mul_of_one_le_of_one_le hb hc)
  calc
    ((m * m' : ℕ) : ℚ) * 2 ^ (e + e') = m * 2 ^ e * (m' * 2 ^ e') := by
      rw [zpow_add₀ two_ne_zero]
      push_cast
      ring
    _ ≤ b * c := by gcongr

/-- A mantissa is not changed in value when its exponent is decreased. -/
theorem decreaseExponent_value (m : ℕ) (hle : e' ≤ e) :
    ((decreaseExponent m e e').1 : ℚ) * 2 ^ e' = m * 2 ^ e := by
  have hexponent : e = (e - e').toNat + e' := by omega
  simp only [decreaseExponent, Nat.shiftLeft_eq]
  rw [congrArg ((2 : ℚ) ^ ·) hexponent, zpow_add₀ two_ne_zero, zpow_natCast]
  push_cast
  ring

theorem natAbs_apply_add_le (s s' : Sign) (i j : ℕ) :
    (s.apply i + s'.apply j).natAbs ≤ i + j := by
  cases s <;> cases s' <;> simp only [Sign.apply] <;> omega

theorem Within.add (hu : Within b u) (hv : Within c v) (hb : 1 ≤ b) (hc : 1 ≤ c) :
    Within (2 * (b + c)) (UnpackedFloat.add .binary64 u v) := by
  have hbc : 0 ≤ b * 2 ∧ 0 ≤ c * 2 := ⟨by linarith, by linarith⟩
  obtain _ | _ | s | ⟨s, m, e, hm⟩ := u <;> obtain _ | _ | s' | ⟨s', m', e', hm'⟩ := v <;>
    simp only [Within, UnpackedFloat.add] at hu hv ⊢
  · cases s <;> cases s' <;> trivial
  · linarith
  · linarith
  · refine within_normalize ?_ (by linarith)
    have hfirst := decreaseExponent_value m (min_le_left e e')
    have hsecond := decreaseExponent_value m' (min_le_right e e')
    calc
      _ ≤ (((decreaseExponent m e (min e e')).1 + (decreaseExponent m' e' (min e e')).1 : ℕ) : ℚ) *
          2 ^ min e e' := by
        gcongr
        exact natAbs_apply_add_le _ _ _ _
      _ = m * 2 ^ e + m' * 2 ^ e' := by
        push_cast
        rw [add_mul, hfirst, hsecond]
      _ ≤ b + c := add_le_add hu hv

/-! ### Storing -/

/-- What is stored of a finite number: the number itself, or less than `2 ^ 52` of the smallest
units, or nothing, or that it is too large. -/
inductive Stored (s : Sign) (m : ℕ) (e : ℤ) : UnpackedFloat → Prop
  | same (hm : 0 < m) : Stored s m e (.finite s m e hm)
  | tiny {k : ℕ} (hk : 0 < k) (hlt : k < 2 ^ 52) : Stored s m e (.finite s k (-1074) hk)
  | nothing : Stored s m e (.zero s)
  | tooLarge (hlarge : 972 ≤ e) : Stored s m e (.infinity s)

/-- What is stored with the least exponent has no more than 52 bits. -/
theorem stored_least (s : Sign) (m : ℕ) (e : ℤ) (fraction : BitVec 52) :
    Stored s m e (UnpackedFloat.unpack .binary64 (packComponents .binary64 s 0#11 fraction)) := by
  have hsign : Sign.ofBitVec s.toBitVec = s := by cases s <;> rfl
  have hones : (0#11) ≠ -1#11 := by decide
  simp only [UnpackedFloat.unpack, unpackMantissa_packComponents, unpackExponent_packComponents,
    unpackSign_packComponents, hsign, if_neg hones, if_true]
  split_ifs with hzero
  · exact .nothing
  · exact .tiny _ fraction.isLt

theorem stored (s : Sign) (m : ℕ) (e : ℤ) (hm : 0 < m) :
    Stored s m e (Float.Model.pack (.finite s m e hm)).unpack := by
  have hsign : Sign.ofBitVec s.toBitVec = s := by cases s <;> rfl
  have hbias : (Format.binary64.exponentBias : ℤ) = 1023 := rfl
  have hbits : Format.binary64.mantissaBits = 53 := rfl
  change Stored s m e (UnpackedFloat.unpack .binary64 (UnpackedFloat.pack .binary64 _))
  simp only [UnpackedFloat.pack, hbias, hbits]
  generalize hbiased : (e + 1023 + (52 : ℕ)).toNat = biased
  split_ifs with hroom hfull
  · have hinfinity : UnpackedFloat.unpack .binary64 (packedInfinity .binary64 s) = .infinity s := by
      cases s <;> rfl
    rw [hinfinity]
    refine .tooLarge ?_
    change 2 ^ 11 ≤ biased + 1 at hroom
    omega
  · have hroom' : biased + 1 < 2 ^ 11 := Nat.lt_of_not_le hroom
    have hmantissa : (1#1 ++ BitVec.ofNat 52 m).toNat = m := by
      have hlog := (Nat.log2_eq_iff hm.ne').mp (Nat.succ_injective hfull : m.log2 = 52)
      exact FullFloat.toNat_one_append hlog.1 hlog.2
    have hexponent : (BitVec.ofNat 11 biased).toNat = biased := by
      rw [BitVec.toNat_ofNat]
      exact Nat.mod_eq_of_lt (by omega)
    have hones : BitVec.ofNat 11 biased ≠ -1#11 := by
      intro h
      have hall : (-1#11).toNat = 2047 := by decide
      rw [h] at hexponent
      omega
    by_cases hleast : BitVec.ofNat 11 biased = 0#11
    · rw [hleast]
      exact stored_least s m e _
    · have hzero : biased ≠ 0 := fun h ↦ hleast (by rw [h])
      have hsame : (biased : ℤ) - (1023 + (52 : ℕ)) = e := by omega
      simp only [UnpackedFloat.unpack, unpackMantissa_packComponents,
        unpackExponent_packComponents, unpackSign_packComponents, hbias, if_neg hones,
        if_neg hleast, hsign, hmantissa, hexponent, hsame]
      exact .same hm
  · exact stored_least s m e _

theorem Within.stored (h : Within b u) (hb : 1 ≤ b) (hb' : b ≤ 2 ^ 100) :
    Within b (Float.Model.pack u).unpack := by
  obtain _ | _ | s | ⟨s, m, e, hm⟩ := u
  · exact h.elim
  · exact h.elim
  · cases s <;> trivial
  · generalize hw : (Float.Model.pack (.finite s m e hm)).unpack = w
    have hstored := Courier.stored s m e hm
    rw [hw] at hstored
    cases hstored with
    | same => exact h
    | @tiny k hk hlt =>
      show (k : ℚ) * 2 ^ (-1074 : ℤ) ≤ b
      calc
        (k : ℚ) * 2 ^ (-1074 : ℤ) ≤ 2 ^ (52 : ℤ) * 2 ^ (-1074 : ℤ) := by
          gcongr
          exact_mod_cast hlt.le
        _ = 2 ^ (-1022 : ℤ) := by rw [← zpow_add₀ two_ne_zero]; norm_num
        _ ≤ 1 := zpow_le_one_of_nonpos₀ one_le_two (by norm_num)
        _ ≤ b := hb
    | nothing => trivial
    | tooLarge hlarge =>
      have hhuge : (2 : ℚ) ^ (972 : ℤ) ≤ m * 2 ^ e := calc
        (2 : ℚ) ^ (972 : ℤ) ≤ 1 * 2 ^ e := by
          rw [one_mul]
          exact zpow_le_zpow_right₀ one_le_two hlarge
        _ ≤ m * 2 ^ e := by
          gcongr
          exact_mod_cast hm
      have hsmall : (2 : ℚ) ^ 100 < 2 ^ (972 : ℤ) := by
        rw [← zpow_natCast]
        exact zpow_lt_zpow_right₀ one_lt_two (by norm_num)
      exact absurd (le_trans hhuge h) (not_le_of_gt (lt_of_le_of_lt hb' hsmall))

/-! ### Signs -/

/-- A number computed with has no sign, if it is a number. -/
def Unsigned : UnpackedFloat → Prop
  | .notANumber => True
  | .infinity s | .zero s | .finite s _ _ _ => s = .positive

theorem unsigned_roundWithAccuracy (m : ℕ) (e : ℤ) (r : Accuracy) :
    Unsigned (roundWithAccuracy .binary64 .positive m e r) := by
  unfold roundWithAccuracy
  simp only
  split <;> rfl

theorem Unsigned.mul (hu : Unsigned u) (hv : Unsigned v) :
    Unsigned (UnpackedFloat.mul .binary64 u v) := by
  obtain _ | _ | _ | _ := u <;> obtain _ | _ | _ | _ := v <;>
    simp only [Unsigned] at hu hv <;> subst_vars <;>
    first | trivial | exact unsigned_roundWithAccuracy _ _ _

theorem Unsigned.div (hu : Unsigned u) (hv : Unsigned v) :
    Unsigned (UnpackedFloat.div .binary64 u v) := by
  obtain _ | _ | _ | _ := u <;> obtain _ | _ | _ | _ := v <;>
    simp only [Unsigned] at hu hv <;> subst_vars <;>
    first | trivial | exact unsigned_roundWithAccuracy _ _ _

theorem unsigned_normalize (n : ℕ) (e : ℤ) :
    Unsigned (UnpackedFloat.normalize .binary64 n e .positive) := by
  unfold UnpackedFloat.normalize
  split
  · rename_i hcompare
    rw [Int.compare_eq_lt] at hcompare
    omega
  · rfl
  · exact unsigned_roundWithAccuracy _ _ _

theorem Unsigned.add (hu : Unsigned u) (hv : Unsigned v) :
    Unsigned (UnpackedFloat.add .binary64 u v) := by
  obtain _ | _ | _ | _ := u <;> obtain _ | _ | _ | _ := v <;>
    simp only [Unsigned] at hu hv <;> subst_vars <;>
    first | trivial | exact unsigned_normalize _ _

theorem Unsigned.stored (h : Unsigned u) : Unsigned (Float.Model.pack u).unpack := by
  obtain s | _ | s | ⟨s, m, e, hm⟩ := u
  · obtain rfl : s = .positive := h
    rfl
  · trivial
  · obtain rfl : s = .positive := h
    rfl
  · obtain rfl : s = .positive := h
    generalize hw : (Float.Model.pack (.finite .positive m e hm)).unpack = w
    have hstored := Courier.stored .positive m e hm
    rw [hw] at hstored
    cases hstored <;> rfl

/-! ### Floats as they are stored -/

theorem toNat_unpackMantissa (b : BitVec Format.binary64.numBits) :
    (unpackMantissa b).toNat = b.toNat % 2 ^ 52 := by
  simp [unpackMantissa]

theorem toNat_unpackExponent (b : BitVec Format.binary64.numBits) :
    (unpackExponent b).toNat = b.toNat / 2 ^ 52 % 2 ^ 11 := by
  simp [unpackExponent, Nat.shiftRight_eq_div_pow]

theorem toNat_append_one (fraction : BitVec 52) :
    (1#1 ++ fraction).toNat = fraction.toNat + 2 ^ 52 := by
  rw [BitVec.toNat_append, ← Nat.shiftLeft_add_eq_or_of_lt (BitVec.isLt _), Nat.shiftLeft_eq,
    BitVec.toNat_ofNat]
  omega

/-- The bits of a finite float: the least exponent, or a mantissa whose first bit is not stored. -/
theorem bits_of_finite {x : Float.Model} {hm : 0 < m} (h : x.unpack = .finite s m e hm) :
    (x.toBits.toNat / 2 ^ 52 % 2 ^ 11 = 0 ∧ m = x.toBits.toNat % 2 ^ 52 ∧ e = -1074) ∨
    (x.toBits.toNat / 2 ^ 52 % 2 ^ 11 ≠ 0 ∧ m = x.toBits.toNat % 2 ^ 52 + 2 ^ 52 ∧
      e = (x.toBits.toNat / 2 ^ 52 % 2 ^ 11 : ℕ) - 1075) := by
  have hbias : (Format.binary64.exponentBias : ℤ) = 1023 := rfl
  have hmantissa := toNat_unpackMantissa x.toBits.toBitVec
  have hexponent := toNat_unpackExponent x.toBits.toBitVec
  unfold Float.Model.unpack UnpackedFloat.unpack at h
  simp only [hbias] at h
  rw [UInt64.toNat_toBitVec] at hmantissa hexponent
  rw [← hmantissa, ← hexponent]
  split_ifs at h with hones hinfinity hleast hnothing
  · rw [UnpackedFloat.finite.injEq] at h
    obtain ⟨-, rfl, rfl⟩ := h
    rw [hleast]
    exact .inl ⟨rfl, rfl, rfl⟩
  · rw [UnpackedFloat.finite.injEq, toNat_append_one] at h
    obtain ⟨-, rfl, rfl⟩ := h
    refine .inr ⟨fun hzero ↦ hleast ?_, rfl, rfl⟩
    exact BitVec.eq_of_toNat_eq hzero

/-- A finite float is stored with full precision, or with the least exponent. -/
theorem canonical {x : Float.Model} {hm : 0 < m} (h : x.unpack = .finite s m e hm) :
    m < 2 ^ 53 ∧ -1074 ≤ e ∧ (2 ^ 52 ≤ m ∨ e = -1074) := by
  have := bits_of_finite h
  omega

/-- The mantissas of the next exponent begin where those of an exponent end. -/
theorem full_le_of_lt {e f : ℤ} (h : e < f) : (2 : ℚ) ^ 53 * 2 ^ e ≤ 2 ^ 52 * 2 ^ f := calc
  (2 : ℚ) ^ 53 * 2 ^ e = 2 ^ 52 * 2 ^ (e + 1) := by
    rw [zpow_add_one₀ two_ne_zero]
    ring
  _ ≤ 2 ^ 52 * 2 ^ f := by
    gcongr
    · exact one_le_two
    · omega

/-- The float that is not greater is not the greater number. -/
theorem value_le_of_lex (hlt : m < 2 ^ 53) (hle : -1074 ≤ e) (hfull : 2 ^ 52 ≤ m' ∨ e' = -1074)
    (h : e < e' ∨ e = e' ∧ m ≤ m') : (m : ℚ) * 2 ^ e ≤ m' * 2 ^ e' := by
  obtain hless | ⟨rfl, hmantissa⟩ := h
  · calc
      (m : ℚ) * 2 ^ e ≤ 2 ^ 53 * 2 ^ e := by
        gcongr
        exact_mod_cast hlt.le
      _ ≤ 2 ^ 52 * 2 ^ e' := full_le_of_lt hless
      _ ≤ m' * 2 ^ e' := by
        gcongr
        exact_mod_cast hfull.resolve_right (by omega)
  · gcongr

/-- A float between two floats is not further from zero. -/
theorem Within.between {x y z : Float} (hy : Within b y.toModel.unpack)
    (hz : Within b z.toModel.unpack) (hlow : y ≤ x) (hhigh : x ≤ z) :
    Within b x.toModel.unpack := by
  rw [float_le_iff] at hlow hhigh
  generalize hu : x.toModel.unpack = u at hlow hhigh
  generalize hv : y.toModel.unpack = v at hy hlow
  generalize hw : z.toModel.unpack = w at hz hhigh
  obtain (_ | _) | _ | _ | ⟨_ | _, m, e, hm⟩ := u
  · cases v <;> simp [Within, UnpackedFloat.le, UnpackedFloat.compare] at hy hlow
  · cases w <;> simp [Within, UnpackedFloat.le, UnpackedFloat.compare] at hz hhigh
  · cases w <;> simp [UnpackedFloat.le, UnpackedFloat.compare] at hhigh
  · trivial
  · obtain (_ | _) | _ | _ | ⟨_ | _, m', e', hm'⟩ := v <;>
      simp [Within, UnpackedFloat.le, UnpackedFloat.compare] at hy hlow
    rw [← Ordering.ne_lt_iff_isGE, Ordering.then_eq_lt, Int.compare_eq_lt, Int.compare_eq_eq,
      Nat.compare_eq_lt] at hlow
    obtain ⟨hlt, hle, -⟩ := canonical hu
    obtain ⟨-, -, hfull⟩ := canonical hv
    exact le_trans (value_le_of_lex hlt hle hfull (by omega)) hy
  · obtain (_ | _) | _ | _ | ⟨_ | _, m', e', hm'⟩ := w <;>
      simp [Within, UnpackedFloat.le, UnpackedFloat.compare] at hz hhigh
    rw [← Ordering.ne_gt_iff_isLE, Ordering.then_eq_gt, Int.compare_eq_gt, Int.compare_eq_eq,
      Nat.compare_eq_gt] at hhigh
    obtain ⟨hlt, hle, -⟩ := canonical hu
    obtain ⟨-, -, hfull⟩ := canonical hw
    exact le_trans (value_le_of_lex hlt hle hfull (by omega)) hz

/-- A float is not further from zero than a bound. -/
abbrev FloatWithin (b : ℚ) (x : Float) : Prop := Within b x.toModel.unpack

/-- A float has no sign, if it is a number. -/
abbrev FloatUnsigned (x : Float) : Prop := Unsigned x.toModel.unpack

variable {x y : Float}

theorem floatWithin_mul (hx : FloatWithin b x) (hy : FloatWithin c y) (hb : 1 ≤ b) (hc : 1 ≤ c)
    (hmost : 2 * (b * c) ≤ 2 ^ 100) : FloatWithin (2 * (b * c)) (x * y) := by
  have hone := one_le_mul_of_one_le_of_one_le hb hc
  exact (hx.mul hy hb hc).stored (by linarith) hmost

theorem floatWithin_add (hx : FloatWithin b x) (hy : FloatWithin c y) (hb : 1 ≤ b) (hc : 1 ≤ c)
    (hmost : 2 * (b + c) ≤ 2 ^ 100) : FloatWithin (2 * (b + c)) (x + y) :=
  (hx.add hy hb hc).stored (by linarith) hmost

theorem floatUnsigned_mul (hx : FloatUnsigned x) (hy : FloatUnsigned y) : FloatUnsigned (x * y) :=
  (Unsigned.mul hx hy).stored

theorem floatUnsigned_div (hx : FloatUnsigned x) (hy : FloatUnsigned y) : FloatUnsigned (x / y) :=
  (Unsigned.div hx hy).stored

theorem floatUnsigned_add (hx : FloatUnsigned x) (hy : FloatUnsigned y) : FloatUnsigned (x + y) :=
  (Unsigned.add hx hy).stored

/-- A whole number that takes more bits than a float has is computed as a product. -/
theorem exists_product_of_large {n : ℕ} (h : ¬ n < 2 ^ 53) :
    ∃ m e hm m' e' hm', (Float.ofNat n).toModel.unpack =
      (Float.Model.pack (UnpackedFloat.mul .binary64 (.finite .positive m e hm)
        (.finite .positive m' e' hm'))).unpack := by
  have hofNat : Float.ofNat n = Float.ofModel (Float.Model.ofScientific n 0) := by
    change Float.ofScientific n false 0 = _
    rw [Float.ofScientific, dif_neg fun hexact ↦ h hexact.1]
    rfl
  have hlarge : ¬ (0 : ℤ) > 2 ^ Format.binary64.exponentBits := by decide
  have hsmall : ¬ (0 : ℤ) < -((2 ^ Format.binary64.exponentBits : ℤ) + n.log2) := by
    have hpositive : (0 : ℤ) < 2 ^ Format.binary64.exponentBits := by decide
    omega
  have hn : n ≠ 0 := fun hzero ↦ h (by rw [hzero]; decide)
  rw [hofNat]
  change ∃ m e hm m' e' hm',
    (Float.Model.pack (UnpackedFloat.ofScientific .binary64 n 0)).unpack = _
  rw [UnpackedFloat.ofScientific, dif_neg hn, if_neg hlarge, if_neg hsmall, if_pos le_rfl]
  exact ⟨_, _, _, _, _, _, rfl⟩

/-- Whole numbers have no sign. -/
theorem floatUnsigned_ofNat (n : ℕ) : FloatUnsigned (Float.ofNat n) := by
  by_cases hlt : n < 2 ^ 53
  · obtain rfl | hpos := Nat.eq_zero_or_pos n
    · rfl
    · unfold FloatUnsigned
      rw [unpack_ofNat hpos hlt]
      rfl
  · obtain ⟨m, e, hm, m', e', hm', hproduct⟩ := exists_product_of_large hlt
    unfold FloatUnsigned
    rw [hproduct]
    exact Unsigned.stored (Unsigned.mul rfl rfl)

/-- A number that is not less than the other is not a number, or has no sign, if the other is
positive. -/
theorem floatUnsigned_of_not_lt (h : ¬ x < 1.0) : FloatUnsigned x := by
  have hone : (1.0 : Float).toModel.unpack = .finite .positive (2 ^ 52) (-52) (by decide) := by rfl
  rw [float_lt_iff, hone] at h
  unfold FloatUnsigned
  generalize x.toModel.unpack = u at h ⊢
  obtain (_ | _) | _ | (_ | _) | ⟨_ | _, m, e, hm⟩ := u <;>
    trivial

/-- What is not less than zero. -/
theorem zero_le_of_lt (hx : FloatUnsigned x) (hlt : x < y) : 0.0 ≤ x := by
  have hnothing : (0.0 : Float).toModel.unpack = .zero .positive := by rfl
  unfold FloatUnsigned at hx
  rw [float_lt_iff] at hlt
  rw [float_le_iff, hnothing]
  generalize x.toModel.unpack = u at hx hlt ⊢
  obtain _ | _ | _ | _ := u <;> simp only [Unsigned] at hx <;> subst_vars
  · rfl
  · simp [UnpackedFloat.lt, UnpackedFloat.compare] at hlt
  · rfl
  · rfl

theorem float_le_of_lt (h : x < y) : x ≤ y := by
  rw [float_lt_iff] at h
  rw [float_le_iff]
  simp only [UnpackedFloat.lt, beq_iff_eq] at h
  simp only [UnpackedFloat.le, h]
  rfl

/-- A rounded number is not further from zero than a whole number that is not less. -/
theorem RoundedTo.within {v : ℚ} {n : ℕ} (h : RoundedTo x v) (hpos : 0 < n) (hlt : n < 2 ^ 53)
    (hle : v ≤ n) : FloatWithin n x := by
  unfold FloatWithin
  obtain ⟨-, hx⟩ | ⟨a, hx, ha⟩ := h <;> rw [hx]
  · trivial
  · rw [← FullFloat.value_whole hpos hlt] at hle
    have hless := ha.mono (FullFloat.rounds_value _) hle
    show a.value ≤ n
    rw [← FullFloat.value_whole hpos hlt]
    exact value_le_of_lex a.mantissa_lt a.le_exponent (.inl (FullFloat.le_mantissa _)) hless

theorem floatWithin_ofNat {n k : ℕ} (hk : 0 < k) (hle : n ≤ k) (hlt : k < 2 ^ 53) :
    FloatWithin k (Float.ofNat n) := by
  obtain rfl | hpos := Nat.eq_zero_or_pos n
  · trivial
  · unfold FloatWithin
    rw [unpack_ofNat hpos (by omega)]
    show (FullFloat.whole n hpos _).value ≤ k
    rw [FullFloat.value_whole]
    exact_mod_cast hle

end Courier

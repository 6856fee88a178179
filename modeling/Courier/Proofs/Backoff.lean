import Courier.Proofs.FloatOrder
import Courier.Proofs.Gate.Answers
import Courier.Proofs.Gate.Naps
import Courier.Proofs.Retry

/-!
# Back-off

After each attempt that fails for now a caller waits, and with accepted settings a later wait should
not be shorter. The exponents count the attempts, but as numbers of 32 bits: from the middle on they
are negative (`RetryStrategy.exponent_of_lt`). So the waits grow, for all settings with a number of
attempts, if and only if it does not lead beyond the middle, or all waits are equal anyway
(`GateSettings.waits_grow_iff_few_attempts`). Nothing keeps a call from getting there: it can nap
after every attempt that leaves another one (`GateSettings.napsAfter_of_new`).

That waits grow before the middle is not for granted, since every product on the way to a power is
rounded. A power is the product of the squares that the binary digits of its exponent name, and the
next exponent has a one where the last ones become zeros. `RetryStrategy.squarings_succ` compares
what these ones have taken with the square that takes their place, factor by factor; rounding keeps
the order of products (`floatHeight_mul_mono`), and that of the nanoseconds at the end
(`Duration.span_mono`).

The greatest delay is a number of seconds, too. It stands for itself as long as it is shorter than
`2 ^ 23` seconds (`Duration.span_seconds`); beyond, its nanoseconds do not fit a float.
-/

set_option autoImplicit false
set_option relaxedAutoImplicit false

namespace Courier

open Float.Model Float.Model.UnpackedFloat

/-! ### Numbers of seconds -/

namespace Duration

variable {x y : Float} {q : ℚ}

/-- How long a number of seconds is, in nanoseconds. What has no duration is longer than any. -/
def span (x : Float) : WithTop ℕ := (ofSeconds? x).elim ⊤ fun d ↦ d.nanos

/-- A quotient is rounded by what the division leaves. -/
theorem exists_tells_roundDiv (n : ℕ) {d : ℕ} (hd : 0 < d) :
    ∃ em : ExtendedMantissa, Tells em (n / d) ∧ roundDiv n d = em.roundedMantissa := by
  refine ⟨_, .fraction n hd, ?_⟩
  simp only [roundDiv, accuracyOfFraction]
  by_cases hexact : n % d = 0
  · rw [if_pos hexact, hexact, if_pos (.inl hd)]
    rfl
  · rw [if_neg hexact]
    cases hhalf : compare (2 * (n % d)) d with
    | lt => exact if_pos (.inl (Nat.compare_eq_lt.mp hhalf))
    | eq =>
      have hhalf := Nat.compare_eq_eq.mp hhalf
      simp only [ExtendedMantissa.ofMantissaAndAccuracy, ExtendedMantissa.roundedMantissa,
        ExtendedMantissa.accuracy, Accuracy.roundToNearestEven]
      split_ifs <;> omega
    | gt =>
      have hhalf := Nat.compare_eq_gt.mp hhalf
      simp only [ExtendedMantissa.ofMantissaAndAccuracy, ExtendedMantissa.roundedMantissa,
        ExtendedMantissa.accuracy, Accuracy.roundToNearestEven]
      split_ifs <;> omega

/-- A number of seconds is rounded to whole nanoseconds. -/
theorem exists_tells_span (hx : FloatUnsigned x) (h : floatHeight x = q) :
    ∃ em : ExtendedMantissa, Tells em (q * nanosPerSecond) ∧
      span x = if em.roundedMantissa < limit then (em.roundedMantissa : WithTop ℕ) else ⊤ := by
  have hnothing : (0.0 : Float).toModel.unpack = .zero .positive := by rfl
  unfold FloatUnsigned at hx
  obtain ⟨s, hu, rfl⟩ | ⟨s, m, e, hm, hu, rfl, -, -, -⟩ := unpack_of_height h <;>
    rw [hu] at hx <;> obtain rfl : s = .positive := hx
  · have hzero : x ≤ 0.0 := by
      rw [float_le_iff, hu, hnothing]
      rfl
    rw [span, ofSeconds?, if_pos (.inr hzero), zero_mul]
    exact ⟨_, .of_exact 0, rfl⟩
  · have hpositive : ¬ (x.isNaN = true ∨ x ≤ 0.0) := by
      have hnan : x.isNaN = x.toModel.unpack.isNaN := rfl
      rw [float_le_iff, hnan, hu, hnothing]
      exact fun h ↦ h.elim Bool.false_ne_true Bool.false_ne_true
    have hfinite : ¬ x.isInf = true := by
      have hinf : x.isInf = x.toModel.unpack.isInf := rfl
      rw [hinf, hu]
      exact Bool.false_ne_true
    obtain ⟨em, htells, hrounded⟩ := exists_tells_roundDiv (m * nanosPerSecond * 2 ^ e.toNat)
      (Nat.two_pow_pos (-e).toNat)
    rw [nanos_eq_div] at htells
    refine ⟨em, htells, ?_⟩
    rw [span, ofSeconds?, if_neg hpositive, if_neg hfinite]
    simp only [nanosOfBits_eq hu, hrounded]
    split_ifs <;> rfl

/-- What is too large has no duration. -/
theorem span_of_top (hx : FloatUnsigned x) (hnumber : x.isNaN = false) (h : floatHeight x = ⊤) :
    span x = ⊤ := by
  have hnothing : (0.0 : Float).toModel.unpack = .zero .positive := by rfl
  unfold FloatUnsigned at hx
  obtain hu | ⟨s, hu⟩ := height_eq_top_iff.mp h
  · have hnan : x.isNaN = x.toModel.unpack.isNaN := rfl
    rw [hnan, hu] at hnumber
    cases hnumber
  · rw [hu] at hx
    obtain rfl : s = .positive := hx
    have hpositive : ¬ (x.isNaN = true ∨ x ≤ 0.0) := by
      rw [hnumber, float_le_iff, hu, hnothing]
      exact fun h ↦ h.elim Bool.false_ne_true Bool.false_ne_true
    have hinf : x.isInf = true := by
      change x.toModel.unpack.isInf = true
      rw [hu]
      rfl
    rw [span, ofSeconds?, if_neg hpositive, if_pos hinf]
    rfl

/-- More seconds are not a shorter time. -/
theorem span_mono (hx : FloatUnsigned x) (hy : FloatUnsigned y) (hnumber : y.isNaN = false)
    (hle : floatHeight x ≤ floatHeight y) : span x ≤ span y := by
  by_cases htop : floatHeight y = ⊤
  · rw [span_of_top hy hnumber htop]
    exact le_top
  · obtain ⟨b, hb⟩ := WithTop.ne_top_iff_exists.mp htop
    obtain ⟨a, ha⟩ := WithTop.ne_top_iff_exists.mp (ne_top_of_le_ne_top htop hle)
    obtain ⟨em, htells, hspan⟩ := exists_tells_span hx ha.symm
    obtain ⟨em', htells', hspan'⟩ := exists_tells_span hy hb.symm
    rw [← ha, ← hb, WithTop.coe_le_coe] at hle
    have hrounded := htells.rounded_mono htells' (mul_le_mul_of_nonneg_right hle (by positivity))
    rw [hspan, hspan']
    split_ifs with h h'
    · exact_mod_cast hrounded
    · exact le_top
    · omega
    · exact le_rfl

/-- The fraction of a second, in seconds. -/
theorem exists_fraction (d : Duration) :
    ∃ v : ℚ, floatHeight (Float.ofNat d.subsecNanos / 1e9) = v ∧ v < 1 ∧
      |v - d.subsecNanos / nanosPerSecond| ≤ 2 ^ (-54 : ℤ) := by
  have hbillion : (1e9 : Float) = Float.ofNat nanosPerSecond := by decide +kernel
  have hunit : (nanosPerSecond : ℚ) = 10 ^ 9 := by norm_num [nanosPerSecond]
  have hless : d.subsecNanos < nanosPerSecond := Nat.mod_lt _ (by decide)
  obtain ⟨v, hv, hfraction⟩ := exists_floatHeight_div
    (floatHeight_ofNat (hless.trans nanosPerSecond_lt)) (floatHeight_ofNat nanosPerSecond_lt)
    (by rw [hunit]; norm_num)
  have hbelow : (d.subsecNanos : ℚ) / nanosPerSecond ≤ 1 - 1 / 10 ^ 9 := by
    have hmost : (d.subsecNanos : ℚ) + 1 ≤ nanosPerSecond := by exact_mod_cast hless
    rw [hunit] at hmost ⊢
    rw [div_le_iff₀ (by norm_num)]
    linarith
  have hclose := hv.close (k := 0) (by norm_num) (by rw [zpow_zero]; linarith)
  have hsmall : (2 : ℚ) ^ (0 - 54 : ℤ) < 1 / 10 ^ 9 := by norm_num
  have hone : v < 1 := by linarith [(abs_le.mp hclose).2]
  refine ⟨v, ?_, hone, hclose⟩
  rw [hbillion, hfraction, clip_of_le (hone.le.trans (by norm_num))]

theorem isNaN_seconds (d : Duration) : d.seconds.isNaN = false := by
  obtain ⟨v, hfraction, -, -⟩ := exists_fraction d
  have hbillion : FloatUnsigned (1e9 : Float) := by rfl
  refine isNaN_add (floatUnsigned_ofNat _) (floatUnsigned_div (floatUnsigned_ofNat _) hbillion)
    (isNaN_ofNat _) ?_
  change (Float.ofNat d.subsecNanos / 1e9).toModel.unpack.isNaN = false
  obtain ⟨s, hu, -⟩ | ⟨s, m, e, hm, hu, -, -, -, -⟩ := unpack_of_height hfraction <;>
    rw [hu] <;> rfl

/-- The seconds of a duration that is not too long are less than half a nanosecond away from it. -/
theorem span_seconds {d : Duration} (h : d.secs < 2 ^ 23) : span d.seconds = d.nanos := by
  have hunit : (nanosPerSecond : ℚ) = 10 ^ 9 := by norm_num [nanosPerSecond]
  have hparts : d.nanos = d.secs * nanosPerSecond + d.subsecNanos :=
    (Nat.div_add_mod' d.nanos nanosPerSecond).symm
  have hnanos : (d.nanos : ℚ) = (d.secs + d.subsecNanos / nanosPerSecond) * nanosPerSecond := by
    rw [hparts, add_mul, div_mul_cancel₀ _ (by rw [hunit]; norm_num)]
    push_cast
    rfl
  obtain ⟨v, hfraction, hone, hv⟩ := exists_fraction d
  have hbillion : FloatUnsigned (1e9 : Float) := by rfl
  obtain ⟨w, hw, hsum⟩ := exists_floatHeight_add (floatHeight_ofNat (by omega)) hfraction
    (floatUnsigned_ofNat d.secs) (floatUnsigned_div (floatUnsigned_ofNat _) hbillion)
  have hsecs : (d.secs : ℚ) + 1 ≤ 2 ^ 23 := by exact_mod_cast h
  have hclose := hw.close (k := 23) (by norm_num) (by norm_num at hsecs ⊢; linarith)
  have hmoderate : w ≤ 2 ^ (100 : ℤ) := by
    have hhigh := (abs_le.mp hclose).2
    norm_num at hsecs hhigh ⊢
    linarith
  rw [clip_of_le hmoderate] at hsum
  obtain ⟨em, htells, hspan⟩ := exists_tells_span d.seconds_unsigned hsum
  have hrounded : em.roundedMantissa = d.nanos := by
    have hnear : |w - (d.secs + d.subsecNanos / nanosPerSecond)| < 1 / 2 / 10 ^ 9 := calc
      |w - (d.secs + d.subsecNanos / nanosPerSecond)| =
          |w - (d.secs + v) + (v - d.subsecNanos / nanosPerSecond)| := by
        congr 1
        ring
      _ ≤ |w - (d.secs + v)| + |v - d.subsecNanos / nanosPerSecond| := abs_add_le _ _
      _ ≤ 2 ^ (23 - 54 : ℤ) + 2 ^ (-54 : ℤ) := add_le_add hclose hv
      _ < 1 / 2 / 10 ^ 9 := by norm_num
    refine htells.rounded_eq ?_
    rwa [hnanos, ← sub_mul, hunit, abs_mul, abs_of_pos (by norm_num : (0 : ℚ) < 10 ^ 9),
      ← lt_div_iff₀ (by norm_num), ← hunit]
  have hshort : d.nanos < limit := calc
    d.nanos = d.secs * nanosPerSecond + d.subsecNanos := hparts
    _ < (d.secs + 1) * nanosPerSecond := by
      rw [Nat.succ_mul]
      exact Nat.add_lt_add_left (Nat.mod_lt _ (by decide)) _
    _ ≤ Nat.pow 2 64 * nanosPerSecond := Nat.mul_le_mul_right _ (by rw [Nat.pow_eq]; omega)
  rw [hspan, hrounded, if_pos hshort]

end Duration

namespace RetryStrategy

/-! ### Powers -/

/-- A positive number that is not less than one. -/
structure Great (x : Float) : Prop where
  number : x.isNaN = false
  unsigned : FloatUnsigned x
  one_le : 1 ≤ floatHeight x

variable {base result result' : Float} {i j : ℤ} {m n : ℕ}

theorem great_one : Great 1.0 where
  number := rfl
  unsigned := by rfl
  one_le := floatHeight_one.ge

theorem Great.mul {x y : Float} (hx : Great x) (hy : Great y) : Great (x * y) where
  number := by
    have hx' := hx.one_le
    have hy' := hy.one_le
    have hnumber := hx.number
    have hnumber' := hy.number
    change x.toModel.unpack.isNaN = false at hnumber
    change y.toModel.unpack.isNaN = false at hnumber'
    change (Float.Model.pack
      (UnpackedFloat.mul .binary64 x.toModel.unpack y.toModel.unpack)).unpack.isNaN = false
    unfold floatHeight at hx' hy'
    refine isNaN_stored ?_
    generalize x.toModel.unpack = u at hx' hnumber ⊢
    generalize y.toModel.unpack = v at hy' hnumber' ⊢
    have hnothing : ¬ (1 : WithTop ℚ) ≤ 0 := not_le_of_gt zero_lt_one
    cases u with
    | notANumber => cases hnumber
    | zero => exact absurd hx' hnothing
    | infinity | finite =>
      cases v with
      | notANumber => cases hnumber'
      | zero => exact absurd hy' hnothing
      | infinity | finite => first | rfl | exact isNaN_roundWithAccuracy
  unsigned := floatUnsigned_mul hx.unsigned hy.unsigned
  one_le := calc
    1 = floatHeight (1.0 * 1.0) := by rw [floatHeight_one_mul, floatHeight_one]; rfl
    _ ≤ floatHeight (x * y) :=
      floatHeight_mul_mono (floatHeight_one.trans_le hx.one_le) (floatHeight_one.trans_le hy.one_le)

@[simp]
theorem squarings_zero (base result : Float) : squarings base result 0 = result := by
  rw [squarings]
  rfl

/-- An even power is a power of the square. -/
theorem squarings_even (base result : Float) (n : ℕ) :
    squarings base result (2 * n) = squarings (base * base) result n := by
  rw [squarings]
  simp only [Nat.mul_mod_right, zero_ne_one, if_false, Nat.mul_div_cancel_left n two_pos]
  split_ifs with hn
  · rw [hn, squarings_zero]
  · rfl

/-- An odd power is a power of the square, times the base. -/
theorem squarings_odd (base result : Float) (n : ℕ) :
    squarings base result (2 * n + 1) = squarings (base * base) (result * base) n := by
  have hodd : (2 * n + 1) % 2 = 1 := by omega
  have hhalf : (2 * n + 1) / 2 = n := by omega
  rw [squarings]
  simp only [hodd, hhalf, if_true]
  split_ifs with hn
  · rw [hn, squarings_zero]
  · rfl

theorem squarings_great (hbase : Great base) (hresult : Great result) (n : ℕ) :
    Great (squarings base result n) := by
  induction n using Nat.strong_induction_on generalizing base result with
  | _ n ih =>
    obtain rfl | hpos := Nat.eq_zero_or_pos n
    · rwa [squarings_zero]
    · obtain ⟨k, rfl | rfl⟩ := n.even_or_odd'
      · rw [squarings_even]
        exact ih k (by omega) (hbase.mul hbase) hresult
      · rw [squarings_odd]
        exact ih k (by omega) (hbase.mul hbase) (hresult.mul hbase)

/-- What is multiplied by the powers may grow. -/
theorem squarings_mono (hle : floatHeight result ≤ floatHeight result') (n : ℕ) :
    floatHeight (squarings base result n) ≤ floatHeight (squarings base result' n) := by
  induction n using Nat.strong_induction_on generalizing base result result' with
  | _ n ih =>
    obtain rfl | hpos := Nat.eq_zero_or_pos n
    · rwa [squarings_zero, squarings_zero]
    · obtain ⟨k, rfl | rfl⟩ := n.even_or_odd'
      · rw [squarings_even, squarings_even]
        exact ih k (by omega) hle
      · rw [squarings_odd, squarings_odd]
        exact ih k (by omega) (floatHeight_mul_mono hle le_rfl)

/-- The next power is not smaller. Where a number ends in ones, the next one has a one in their
place, so what is taken so far is compared with the power that takes its place. -/
theorem squarings_succ (hle : floatHeight result ≤ floatHeight base) (n : ℕ) :
    floatHeight (squarings base result n) ≤ floatHeight (squarings base 1.0 (n + 1)) := by
  induction n using Nat.strong_induction_on generalizing base result with
  | _ n ih =>
    obtain ⟨k, rfl | rfl⟩ := n.even_or_odd'
    · rw [squarings_even, squarings_odd]
      exact squarings_mono (by rwa [floatHeight_one_mul]) k
    · rw [squarings_odd, show 2 * k + 1 + 1 = 2 * (k + 1) by ring, squarings_even]
      exact ih k (by omega) (floatHeight_mul_mono hle le_rfl)

theorem squarings_le (hbase : Great base) (hle : m ≤ n) :
    floatHeight (squarings base 1.0 m) ≤ floatHeight (squarings base 1.0 n) := by
  induction n, hle using Nat.le_induction with
  | base => exact le_rfl
  | succ n _ ih => exact ih.trans (squarings_succ (floatHeight_one.trans_le hbase.one_le) n)

/-- A greater exponent that is not negative gives no smaller power. -/
theorem power_mono (hbase : Great base) (hi : 0 ≤ i) (hle : i ≤ j) :
    floatHeight (power base i) ≤ floatHeight (power base j) := by
  simp only [power, if_neg (not_lt_of_ge hi), if_neg (not_lt_of_ge (hi.trans hle))]
  exact squarings_le hbase (by omega)

theorem power_zero (base : Float) : power base 0 = 1.0 := by
  simp [power]

/-- A negative exponent gives no power above one. -/
theorem power_le_one (hbase : Great base) (hi : i < 0) : floatHeight (power base i) ≤ 1 := by
  have hgreat := squarings_great hbase great_one i.natAbs
  simp only [power, if_pos hi]
  generalize squarings base 1.0 i.natAbs = x at hgreat ⊢
  by_cases htop : floatHeight x = ⊤
  · have hnumber := hgreat.number
    change x.toModel.unpack.isNaN = false at hnumber
    obtain hu | ⟨s, hu⟩ := height_eq_top_iff.mp htop <;> rw [hu] at hnumber
    · cases hnumber
    · have hone : (1.0 : Float).toModel.unpack = .finite .positive (2 ^ 52) (-52) (by decide) := by
        rfl
      have hnothing : floatHeight (1.0 / x) = 0 := by
        change height (Float.Model.pack
          (UnpackedFloat.div .binary64 (1.0 : Float).toModel.unpack x.toModel.unpack)).unpack = 0
        rw [hu, hone]
        exact height_stored_zero _
      rw [hnothing]
      exact zero_le_one
  · obtain ⟨b, hb⟩ := WithTop.ne_top_iff_exists.mp htop
    have hone : 1 ≤ b := WithTop.coe_le_coe.mp (hb ▸ hgreat.one_le)
    obtain ⟨v, hv, hquotient⟩ := exists_floatHeight_div floatHeight_one hb.symm (by positivity)
    have hle : v ≤ 1 := hv.mono nearest_one (div_le_one_of_le₀ hone (by positivity))
    rw [hquotient, clip_of_le (hle.trans (by norm_num))]
    exact WithTop.coe_le_coe.mpr hle

/-! ### Waits -/

/-- How long a caller waits after an attempt, in nanoseconds. A wait that has no duration is longer
than any other. -/
def wait (strategy : RetryStrategy) (attempt : ℕ) (spread : Float) : WithTop ℕ :=
  match strategy.delay attempt spread with
  | .ok d => d.nanos
  | .error _ => ⊤

variable {initial max : Duration} {multiplier jitter spread spread' : Float}

/-- Without jitter the draw does not matter. -/
theorem wait_eq_span (hjitter : ¬ 0.0 < jitter) (n : ℕ) (spread : Float) :
    wait (.exponential initial max multiplier jitter) n spread =
      Duration.span (cappedSeconds initial max multiplier n) := by
  simp only [wait, delay, if_neg hjitter, Duration.span]
  cases Duration.ofSeconds? (cappedSeconds initial max multiplier n) <;> rfl

theorem exponent_eq (n : ℕ) : exponent n = Int.bmod (n - 1 : ℕ) 4294967296 := rfl

/-- The exponent is the number of the attempt less one, up to the middle of 32 bits. -/
theorem exponent_of_le (hn : 1 ≤ n) (hle : n ≤ 2 ^ 31) : exponent n = n - 1 := by
  rw [exponent_eq, Int.bmod_def]
  split_ifs <;> omega

/-- Beyond the middle it is negative. -/
theorem exponent_of_lt (hlt : 2 ^ 31 < n) (hn : n < 2 ^ 32) : exponent n = n - 1 - 2 ^ 32 := by
  rw [exponent_eq, Int.bmod_def]
  split_ifs <;> omega

/-- The smaller of two numbers without signs; what is not a number counts as the larger one. -/
theorem floatHeight_smaller {x y : Float} (hx : FloatUnsigned x) (hy : FloatUnsigned y)
    (hnumber : y.isNaN = false) :
    floatHeight (smaller x y) = min (floatHeight x) (floatHeight y) := by
  simp only [smaller, hnumber, Bool.false_eq_true, if_false]
  split_ifs with hnan hless
  · have htop : floatHeight x = ⊤ := by
      refine height_eq_top_iff.mpr (.inl ?_)
      change x.toModel.unpack.isNaN = true at hnan
      generalize x.toModel.unpack = u at hnan ⊢
      cases u <;> first | rfl | cases hnan
    rw [htop, min_eq_right le_top]
  · exact (min_eq_left ((float_lt_iff_height hx hy hnumber).mp hless).le).symm
  · rw [float_lt_iff_height hx hy hnumber, not_lt] at hless
    exact (min_eq_right hless).symm

theorem smaller_unsigned {x y : Float} (hx : FloatUnsigned x) (hy : FloatUnsigned y) :
    FloatUnsigned (smaller x y) := by
  unfold smaller
  split_ifs <;> assumption

theorem isNaN_smaller {x y : Float} (hnumber : y.isNaN = false) :
    (smaller x y).isNaN = false := by
  unfold smaller
  split_ifs with hnan hnan' hless
  · exact hnumber
  · rw [hnumber] at hnan'
    cases hnan'
  · exact Bool.eq_false_iff.mpr hnan
  · exact hnumber

/-- A longer power gives no shorter wait. -/
theorem span_capped_mono (hmultiplier : FloatUnsigned multiplier)
    (hle : floatHeight (power multiplier (exponent m)) ≤
      floatHeight (power multiplier (exponent n))) :
    Duration.span (cappedSeconds initial max multiplier m) ≤
      Duration.span (cappedSeconds initial max multiplier n) := by
  have hraw (n : ℕ) : FloatUnsigned (initial.seconds * power multiplier (exponent n)) :=
    floatUnsigned_mul initial.seconds_unsigned (power_unsigned hmultiplier _)
  refine Duration.span_mono (smaller_unsigned (hraw m) max.seconds_unsigned)
    (smaller_unsigned (hraw n) max.seconds_unsigned) (isNaN_smaller max.isNaN_seconds) ?_
  rw [cappedSeconds, cappedSeconds, floatHeight_smaller (hraw m) max.seconds_unsigned
    max.isNaN_seconds, floatHeight_smaller (hraw n) max.seconds_unsigned max.isNaN_seconds]
  exact min_le_min_right _ (floatHeight_mul_mono le_rfl hle)

/-- Accepted factors are not less than one, or not numbers. -/
theorem great_of_accepted
    (hvalid : RetryStrategy.invalid? (.exponential initial max multiplier jitter) = none)
    (hnumber : multiplier.isNaN = false) : Great multiplier := by
  simp only [RetryStrategy.invalid?] at hvalid
  split_ifs at hvalid with hmultiplier hjitter
  have hone : FloatUnsigned 1.0 := by rfl
  have hunsigned := floatUnsigned_of_not_lt hmultiplier
  rw [float_lt_iff_height hunsigned hone rfl, floatHeight_one, not_lt] at hmultiplier
  exact ⟨hnumber, hunsigned, hmultiplier⟩

/-- No wait is longer than the seconds of the greatest delay. -/
theorem span_capped_le (hmultiplier : FloatUnsigned multiplier) (n : ℕ) :
    Duration.span (cappedSeconds initial max multiplier n) ≤ Duration.span max.seconds := by
  have hraw : FloatUnsigned (initial.seconds * power multiplier (exponent n)) :=
    floatUnsigned_mul initial.seconds_unsigned (power_unsigned hmultiplier _)
  refine Duration.span_mono (smaller_unsigned hraw max.seconds_unsigned) max.seconds_unsigned
    max.isNaN_seconds ?_
  rw [cappedSeconds, floatHeight_smaller hraw max.seconds_unsigned max.isNaN_seconds]
  exact min_le_right _ _

/-- Up to the middle of 32 bits the waits do not shrink. -/
theorem span_capped_le_span_capped (hmultiplier : Great multiplier) (hm : 1 ≤ m) (hle : m ≤ n)
    (hn : n ≤ 2 ^ 31) :
    Duration.span (cappedSeconds initial max multiplier m) ≤
      Duration.span (cappedSeconds initial max multiplier n) := by
  refine span_capped_mono hmultiplier.unsigned (power_mono hmultiplier ?_ ?_)
  · rw [exponent_of_le hm (hle.trans hn)]
    omega
  · rw [exponent_of_le hm (hle.trans hn), exponent_of_le (hm.trans hle) hn]
    omega

/-- Beyond the middle no wait is longer than the first one. -/
theorem span_capped_le_first (hmultiplier : Great multiplier) (hlt : 2 ^ 31 < n) (hn : n < 2 ^ 32) :
    Duration.span (cappedSeconds initial max multiplier n) ≤
      Duration.span (cappedSeconds initial max multiplier 1) := by
  refine span_capped_mono hmultiplier.unsigned ?_
  have hfirst : exponent 1 = 0 := exponent_of_le le_rfl (by norm_num)
  rw [hfirst, power_zero, floatHeight_one]
  refine power_le_one hmultiplier ?_
  rw [exponent_of_lt hlt hn]
  omega

/-- A wait that is not too long is the length of a delay. -/
theorem exists_delay_of_wait_le {strategy : RetryStrategy} {k : ℕ}
    (h : strategy.wait n spread ≤ k) : ∃ d, strategy.delay n spread = .ok d ∧ d.nanos ≤ k := by
  unfold wait at h
  cases hdelay : strategy.delay n spread with
  | ok d =>
    rw [hdelay] at h
    exact ⟨d, rfl, WithTop.coe_le_coe.mp h⟩
  | error reason =>
    rw [hdelay] at h
    exact absurd h (not_le_of_gt (WithTop.coe_lt_top k))

end RetryStrategy

namespace GateSettings

open RetryStrategy

/-- Wherever another attempt may follow, the exponent is the number of the attempts before. -/
def CountsUp (settings : GateSettings) : Prop :=
  ∀ n, settings.RetriesAfter n → exponent n = n - 1 ∧ 0 ≤ exponent n

/-- Wherever another attempt may follow, a later wait is not shorter. -/
def WaitsGrow (settings : GateSettings) : Prop :=
  ∀ m n spread spread', settings.RetriesAfter m → settings.RetriesAfter n → m ≤ n →
    settings.retry.wait m spread ≤ settings.retry.wait n spread'

variable {settings : GateSettings} {initial max : Duration} {multiplier jitter : Float} {m n : ℕ}

theorem countsUp_iff (hattempts : settings.maxAttempts < 2 ^ 32) :
    settings.CountsUp ↔ settings.maxAttempts ≤ 2 ^ 31 + 1 := by
  constructor
  · intro hcounts
    by_contra hmany
    have hreached : settings.RetriesAfter (2 ^ 31 + 1) := ⟨by omega, by omega⟩
    have hnegative := exponent_of_lt (n := 2 ^ 31 + 1) (by omega) (by norm_num)
    have hcount := (hcounts _ hreached).2
    omega
  · rintro hfew n ⟨hn, hless⟩
    have hexponent := exponent_of_le hn (by omega)
    exact ⟨hexponent, by omega⟩

theorem wait_mono (hretry : settings.retry = .exponential initial max multiplier jitter)
    (hjitter : ¬ 0.0 < jitter) (hmultiplier : Great multiplier) (hm : 1 ≤ m) (hle : m ≤ n)
    (hn : n ≤ 2 ^ 31) (spread spread' : Float) :
    settings.retry.wait m spread ≤ settings.retry.wait n spread' := by
  rw [hretry, wait_eq_span hjitter, wait_eq_span hjitter]
  exact span_capped_le_span_capped hmultiplier hm hle hn

theorem wait_le (hretry : settings.retry = .exponential initial max multiplier jitter)
    (hjitter : ¬ 0.0 < jitter) (hmultiplier : Great multiplier) (n : ℕ) (spread : Float) :
    settings.retry.wait n spread ≤ Duration.span max.seconds := by
  rw [hretry, wait_eq_span hjitter]
  exact span_capped_le hmultiplier.unsigned n

/-- Without jitter, a greatest delay of less than `2 ^ 23` seconds is not exceeded. -/
theorem exists_delay_le (hretry : settings.retry = .exponential initial max multiplier jitter)
    (hjitter : ¬ 0.0 < jitter) (hmultiplier : Great multiplier) (hshort : max.secs < 2 ^ 23)
    (n : ℕ) (spread : Float) :
    ∃ d, settings.retry.delay n spread = .ok d ∧ d.nanos ≤ max.nanos :=
  exists_delay_of_wait_le <|
    (wait_le hretry hjitter hmultiplier n spread).trans_eq (Duration.span_seconds hshort)

/-- As many naps as 32 bits can number, none of them too long, do not reach the end of the clock. -/
theorem naps_lt_clockEnd (hattempts : settings.maxAttempts < 2 ^ 32) (hshort : max.secs < 2 ^ 23) :
    settings.maxAttempts * max.nanos < Moment.clockEnd := by
  have hlong : max.nanos < 2 ^ 23 * Duration.nanosPerSecond :=
    (Nat.div_lt_iff_lt_mul (by decide)).mp hshort
  calc
    settings.maxAttempts * max.nanos ≤ 2 ^ 32 * (2 ^ 23 * Duration.nanosPerSecond) :=
      Nat.mul_le_mul hattempts.le hlong.le
    _ < Moment.clockEnd := by decide

/-- At a new gate a call may nap wherever another attempt may follow. -/
theorem napsAfter_of_new (hvalid : settings.invalid? = none)
    (hattempts : settings.maxAttempts < 2 ^ 32) (hshort : max.secs < 2 ^ 23)
    (hdelay : ∀ n spread, ∃ d, settings.retry.delay n spread = .ok d ∧ d.nanos ≤ max.nanos)
    {g : Gate} {resource : String} (hnew : Gate.new resource settings = .ok g)
    (htimeout : settings.limiter.timeout.nanos < Moment.clockEnd) (hn : settings.RetriesAfter n) :
    g.NapsAfter n := by
  have hunhindered := Gate.unhindered_of_new hvalid hnew htimeout (fun n ↦ hdelay n 0.0)
    (naps_lt_clockEnd hattempts hshort)
  refine Gate.napsAfter_of_retriesAfter hunhindered ?_
  rwa [(Traffic.settings_of_new hnew).1]

theorem waitsGrow_iff (hretry : settings.retry = .exponential initial max multiplier jitter)
    (hattempts : settings.maxAttempts < 2 ^ 32) (hjitter : ¬ 0.0 < jitter)
    (hmultiplier : Great multiplier) :
    settings.WaitsGrow ↔ settings.maxAttempts ≤ 2 ^ 31 + 1 ∨
      ∀ n spread spread', settings.RetriesAfter n →
        settings.retry.wait n spread = settings.retry.wait 1 spread' := by
  constructor
  · intro hgrow
    rw [or_iff_not_imp_left]
    rintro hmany n spread spread' hn
    have hfirst : settings.RetriesAfter 1 := ⟨le_rfl, by omega⟩
    have hmiddle : settings.RetriesAfter (2 ^ 31 + 1) := ⟨by omega, by omega⟩
    refine le_antisymm ?_ (hgrow 1 n spread' spread hfirst hn hn.1)
    have hshort (k : ℕ) (hlt : 2 ^ 31 < k) (hk : settings.RetriesAfter k) (spread : Float) :
        settings.retry.wait k spread ≤ settings.retry.wait 1 spread' := by
      rw [hretry, wait_eq_span hjitter, wait_eq_span hjitter]
      exact span_capped_le_first hmultiplier hlt (hk.2.trans hattempts)
    by_cases hlt : 2 ^ 31 < n
    · exact hshort n hlt hn spread
    · exact (hgrow n (2 ^ 31 + 1) spread 0.0 hn hmiddle (by omega)).trans
        (hshort _ (by norm_num) hmiddle 0.0)
  · rintro (hfew | hconstant) m n spread spread' hm hn hle
    · exact wait_mono hretry hjitter hmultiplier hm.1 hle (by have := hn.2; omega) _ _
    · rw [hconstant m spread 0.0 hm, hconstant n spread' 0.0 hn]

/-- Back-off grows with the attempts while there are not more than half as many as 32 bits can
number. A call naps only where another attempt may follow, and a call at a new gate can nap wherever
one may, so the attempts between are all that count. Without jitter no wait is longer than the
seconds of the greatest delay. -/
theorem waits_grow_iff_few_attempts (hvalid : settings.invalid? = none)
    (hretry : settings.retry = .exponential initial max multiplier jitter)
    (hattempts : settings.maxAttempts < 2 ^ 32) :
    (∀ (g : Gate) n, g.settings = settings → g.NapsAfter n → settings.RetriesAfter n) ∧
      (∀ n, settings.RetriesAfter n →
        exponent n = if n ≤ 2 ^ 31 then (n : ℤ) - 1 else n - 1 - 2 ^ 32) ∧
      (settings.CountsUp ↔ settings.maxAttempts ≤ 2 ^ 31 + 1) ∧
      (¬ 0.0 < jitter → multiplier.isNaN = false →
        (∀ m n spread spread', 1 ≤ m → m ≤ n → n ≤ 2 ^ 31 →
          settings.retry.wait m spread ≤ settings.retry.wait n spread') ∧
        (∀ n spread, settings.retry.wait n spread ≤ Duration.span max.seconds) ∧
        (max.secs < 2 ^ 23 →
          (∀ n spread, ∃ d, settings.retry.delay n spread = .ok d ∧ d.nanos ≤ max.nanos) ∧
          (settings.limiter.timeout.nanos < Moment.clockEnd →
            ∀ (g : Gate) resource n, Gate.new resource settings = .ok g →
              settings.RetriesAfter n → g.NapsAfter n)) ∧
        (settings.WaitsGrow ↔ settings.maxAttempts ≤ 2 ^ 31 + 1 ∨
          ∀ n spread spread', settings.RetriesAfter n →
            settings.retry.wait n spread = settings.retry.wait 1 spread')) := by
  refine ⟨?_, ?_, countsUp_iff hattempts, ?_⟩
  · rintro g n rfl hnap
    exact hnap.retriesAfter
  · rintro n ⟨hn, hless⟩
    split_ifs with hle
    · exact exponent_of_le hn hle
    · exact exponent_of_lt (by omega) (hless.trans hattempts)
  · intro hjitter hnumber
    have haccepted : RetryStrategy.invalid? (.exponential initial max multiplier jitter) = none :=
      hretry ▸ GateCall.retry_of_valid hvalid
    have hgreat := great_of_accepted haccepted hnumber
    refine ⟨fun m n spread spread' hm hle hn ↦
        wait_mono hretry hjitter hgreat hm hle hn spread spread',
      wait_le hretry hjitter hgreat, fun hshort ↦ ?_,
      waitsGrow_iff hretry hattempts hjitter hgreat⟩
    have hdelay := exists_delay_le hretry hjitter hgreat hshort
    exact ⟨hdelay, fun htimeout g resource n hnew hn ↦
      napsAfter_of_new hvalid hattempts hshort hdelay hnew htimeout hn⟩

/-- From one second up to ten, doubled each time, with as many attempts as 32 bits can number. -/
def relentless : GateSettings :=
  { maxAttempts := 2 ^ 32 - 1, retry := .exponential (.ofSecs 1) (.ofSecs 10) 2.0 0.0 }

/-- With as many attempts as 32 bits can number, the waits grow up to the middle only. -/
theorem waits_grow_iff_few_attempts_relentless :
    relentless.invalid? = none ∧ exponent (2 ^ 31) = 2 ^ 31 - 1 ∧
      relentless.retry.wait 1 0.0 ≤ relentless.retry.wait (2 ^ 31) 0.0 ∧
      (∃ d, relentless.retry.delay (2 ^ 31) 0.0 = .ok d ∧ d.nanos ≤ (Duration.ofSecs 10).nanos) ∧
      ¬ relentless.CountsUp ∧ ¬ relentless.WaitsGrow := by
  have hvalid : relentless.invalid? = none := by decide +kernel
  have hmany : ¬ relentless.maxAttempts ≤ 2 ^ 31 + 1 := by decide
  obtain ⟨-, hexponent, hcounts, hwaits⟩ :=
    waits_grow_iff_few_attempts hvalid rfl (by decide : relentless.maxAttempts < 2 ^ 32)
  obtain ⟨hmono, -, hshort, hgrow⟩ := hwaits (by decide +kernel) (by decide +kernel)
  refine ⟨hvalid, hexponent (2 ^ 31) ⟨by decide, by decide⟩,
    hmono 1 (2 ^ 31) 0.0 0.0 le_rfl (by decide) le_rfl, (hshort (by decide)).1 (2 ^ 31) 0.0,
    fun h ↦ hmany (hcounts.mp h), fun h ↦ ?_⟩
  obtain hfew | hconstant := hgrow.mp h
  · exact hmany hfew
  · have hsecond : relentless.retry.wait 2 0.0 = relentless.retry.wait 1 0.0 :=
      hconstant 2 0.0 0.0 ⟨by decide, by decide⟩
    have hdoubled : relentless.retry.wait 2 0.0 ≠ relentless.retry.wait 1 0.0 := by decide +kernel
    exact hdoubled hsecond

/-- Accepted settings with which a call naps for no time at all, after an attempt whose exponent is
negative. -/
theorem accepted_waits_shrink :
    relentless.invalid? = none ∧
      (∃ g, Gate.new "slack" relentless = .ok g ∧ g.NapsAfter 1 ∧ g.NapsAfter (2 ^ 31 + 1)) ∧
      exponent (2 ^ 31 + 1) = -2 ^ 31 ∧ relentless.retry.delay 1 0.0 = .ok (.ofSecs 1) ∧
      relentless.retry.delay (2 ^ 31 + 1) 0.0 = .ok .zero := by
  have hvalid : relentless.invalid? = none := by decide +kernel
  have hjitter : ¬ (0.0 : Float) < 0.0 := by decide +kernel
  have hgreat : Great 2.0 := great_of_accepted (GateCall.retry_of_valid hvalid) rfl
  have hretry : relentless.retry = .exponential (.ofSecs 1) (.ofSecs 10) 2.0 0.0 := rfl
  have hdelay := exists_delay_le hretry hjitter hgreat (by decide)
  obtain ⟨g, hnew⟩ : ∃ g, Gate.new "slack" relentless = .ok g := ⟨_, rfl⟩
  have hnaps (n : ℕ) (hn : relentless.RetriesAfter n) : g.NapsAfter n :=
    napsAfter_of_new hvalid (by decide) (by decide) hdelay hnew (by decide) hn
  refine ⟨hvalid, ⟨g, hnew, hnaps 1 ⟨by decide, by decide⟩,
    hnaps (2 ^ 31 + 1) ⟨by decide, by decide⟩⟩, ?_, ?_, ?_⟩ <;> decide +kernel

end GateSettings

end Courier

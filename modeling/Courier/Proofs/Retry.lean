import Courier.Gate.Settings
import Courier.Proofs.Magnitude

/-!
# Delays that have a duration

A delay between attempts is computed in floats of seconds, and what comes out may be too long for a
duration. If the greatest delay is less than `2 ^ 53` seconds, this does not happen, whatever the
first delay, the factor, the jitter and the draw are: `RetryStrategy.delay_of_bounded`. The first
delay times a power of the factor may be infinite, or not a number, but it is not negative
(`power_unsigned`), so the smaller of it and the greatest delay is not far from zero
(`smaller_within`), and jitter no more than doubles that in the exact arithmetic. What is not far
from zero has a duration (`Duration.exists_ofSeconds`).
-/

set_option autoImplicit false
set_option relaxedAutoImplicit false

namespace Courier

open Float.Model (UnpackedFloat)

namespace Duration

variable {b : ℚ} {x : Float}

theorem roundDiv_le (n d : ℕ) : (roundDiv n d : ℚ) ≤ n / d + 1 := by
  have hnext : roundDiv n d ≤ n / d + 1 := by
    unfold roundDiv
    simp only
    split <;> omega
  calc
    (roundDiv n d : ℚ) ≤ (n / d : ℕ) + 1 := by exact_mod_cast hnext
    _ ≤ n / d + 1 := by
      gcongr
      exact Nat.cast_div_le

/-- The nanoseconds of a positive float are what it says, rounded to a whole number. -/
theorem nanosOfBits_eq {m : ℕ} {e : ℤ} {hm : 0 < m}
    (h : x.toModel.unpack = .finite .positive m e hm) :
    nanosOfBits (x.toBits.toNat % Nat.pow 2 63) =
      roundDiv (m * nanosPerSecond * 2 ^ e.toNat) (2 ^ (-e).toNat) := by
  have hbits := bits_of_finite h
  have hstored : x.toBits = x.toModel.toBits := rfl
  have hfield : x.toModel.toBits.toNat % 2 ^ 63 / 2 ^ 52 =
      x.toModel.toBits.toNat / 2 ^ 52 % 2 ^ 11 := by omega
  have hfraction : x.toModel.toBits.toNat % 2 ^ 63 % 2 ^ 52 =
      x.toModel.toBits.toNat % 2 ^ 52 := by omega
  simp only [nanosOfBits, Nat.pow_eq, hstored, hfield, hfraction]
  obtain ⟨hleast, rfl, rfl⟩ | ⟨hmore, rfl, rfl⟩ := hbits
  · have hexponent : (1 : ℤ) - 1075 = -1074 := rfl
    rw [if_pos hleast, if_pos hleast, hexponent]
  · rw [if_neg hmore, if_neg hmore]

/-- A number of seconds in nanoseconds, as a fraction. -/
theorem nanos_eq_div (m : ℕ) (e : ℤ) :
    ((m * nanosPerSecond * 2 ^ e.toNat : ℕ) : ℚ) / (2 ^ (-e).toNat : ℕ) =
      m * 2 ^ e * nanosPerSecond := by
  have hexponent : (2 : ℚ) ^ e = 2 ^ e.toNat / 2 ^ (-e).toNat := by
    rw [← zpow_natCast, ← zpow_natCast, ← zpow_sub₀ two_ne_zero]
    congr 1
    omega
  rw [hexponent]
  push_cast
  ring

/-- The nanoseconds of a positive float are as many as it says. -/
theorem nanosOfBits_le {m : ℕ} {e : ℤ} {hm : 0 < m}
    (h : x.toModel.unpack = .finite .positive m e hm) :
    (nanosOfBits (x.toBits.toNat % Nat.pow 2 63) : ℚ) ≤ m * 2 ^ e * nanosPerSecond + 1 := by
  rw [nanosOfBits_eq h, ← nanos_eq_div]
  exact roundDiv_le _ _

/-- What is not too far from zero has a duration. -/
theorem exists_ofSeconds (h : FloatWithin b x) (hb : b ≤ 2 ^ 63) : ∃ d, ofSeconds? x = some d := by
  unfold ofSeconds?
  by_cases hzero : x.isNaN ∨ x ≤ 0.0
  · exact ⟨zero, if_pos hzero⟩
  · have hnothing : (0.0 : Float).toModel.unpack = .zero .positive := by rfl
    obtain ⟨m, e, hm, hx⟩ : ∃ m e hm, x.toModel.unpack = .finite .positive m e hm := by
      have hnan : x.isNaN = x.toModel.unpack.isNaN := rfl
      unfold FloatWithin at h
      rw [float_le_iff, hnothing, hnan] at hzero
      generalize x.toModel.unpack = u at h hzero
      obtain _ | _ | _ | ⟨_ | _, m, e, hm⟩ := u
      · exact h.elim
      · exact h.elim
      · exact absurd (.inr rfl) hzero
      · exact absurd (.inr rfl) hzero
      · exact ⟨m, e, hm, rfl⟩
    have hfinite : ¬ x.isInf = true := by
      change ¬ x.toModel.unpack.isInf = true
      rw [hx]
      exact Bool.false_ne_true
    have hvalue : (m : ℚ) * 2 ^ e ≤ 2 ^ 63 := by
      unfold FloatWithin at h
      rw [hx] at h
      exact le_trans h hb
    have hnanos := nanosOfBits_le hx
    have hshort : nanosOfBits (x.toBits.toNat % Nat.pow 2 63) < limit := by
      have hless : (nanosOfBits (x.toBits.toNat % Nat.pow 2 63) : ℚ) < limit := calc
        _ ≤ (m : ℚ) * 2 ^ e * nanosPerSecond + 1 := hnanos
        _ ≤ 2 ^ 63 * nanosPerSecond + 1 := by gcongr
        _ < limit := by norm_num [limit, nanosPerSecond]
      exact_mod_cast hless
    rw [if_neg hzero, if_neg hfinite]
    exact ⟨_, if_pos hshort⟩

theorem nanosPerSecond_lt : nanosPerSecond < 2 ^ 53 := by decide

/-- The fraction of a second is not more than one. -/
theorem fraction_within (d : Duration) : FloatWithin 1 (Float.ofNat d.subsecNanos / 1e9) := by
  have hless : d.subsecNanos < nanosPerSecond := Nat.mod_lt _ (by decide)
  have hbillion : (1e9 : Float) = Float.ofNat nanosPerSecond := by decide +kernel
  have hrounded : RoundedTo (Float.ofNat d.subsecNanos / Float.ofNat nanosPerSecond)
      (d.subsecNanos / nanosPerSecond) :=
    RoundedTo.div (hless.trans nanosPerSecond_lt) (by decide) nanosPerSecond_lt
      (fun h ↦ by rw [h]; rfl) fun h ↦ unpack_ofNat h (hless.trans nanosPerSecond_lt)
  rw [hbillion]
  have hwithin := hrounded.within Nat.one_pos (by norm_num) <| by
    rw [div_le_iff₀ (by norm_num [nanosPerSecond])]
    push_cast
    rw [one_mul]
    exact_mod_cast hless.le
  rwa [Nat.cast_one] at hwithin

/-- A duration of less than `2 ^ 53` seconds is not far from zero in seconds. -/
theorem seconds_within {d : Duration} (h : d.secs < 2 ^ 53) : FloatWithin (2 ^ 55) d.seconds := by
  have hsecs : FloatWithin (2 ^ 53 - 1 : ℕ) (Float.ofNat d.secs) :=
    floatWithin_ofNat (by decide) (by omega) (by decide)
  refine Within.mono (floatWithin_add hsecs (fraction_within d) ?_ ?_ ?_) ?_ <;> norm_num

theorem seconds_unsigned (d : Duration) : FloatUnsigned d.seconds := by
  have hbillion : FloatUnsigned (1e9 : Float) := by rfl
  exact floatUnsigned_add (floatUnsigned_ofNat _)
    (floatUnsigned_div (floatUnsigned_ofNat _) hbillion)

end Duration

namespace RetryStrategy

/-- The greatest delay is less than `2 ^ 53` seconds, if the delay grows. -/
def Bounded : RetryStrategy → Prop
  | .constant _ => True
  | .exponential _ max _ _ => max.secs < 2 ^ 53

/-- Powers of a number without a sign have none. -/
theorem squarings_unsigned {base result : Float} (hbase : FloatUnsigned base)
    (hresult : FloatUnsigned result) (n : ℕ) : FloatUnsigned (squarings base result n) := by
  have hnext : ∀ {base result : Float} (n : ℕ), FloatUnsigned base → FloatUnsigned result →
      FloatUnsigned (if n % 2 = 1 then result * base else result) := by
    intro base result n hbase hresult
    split
    · exact floatUnsigned_mul hresult hbase
    · exact hresult
  fun_induction squarings base result n with
  | case1 base result n => exact hnext n hbase hresult
  | case2 base result n _ _ ih => exact ih (floatUnsigned_mul hbase hbase) (hnext n hbase hresult)

theorem power_unsigned {base : Float} (h : FloatUnsigned base) (i : ℤ) :
    FloatUnsigned (power base i) := by
  have hone : FloatUnsigned 1.0 := by rfl
  have hraised := squarings_unsigned h hone i.natAbs
  unfold power
  simp only
  split
  · exact floatUnsigned_div hone hraised
  · exact hraised

/-- The smaller of two numbers is not further from zero than the second, if the first has no
sign. -/
theorem smaller_within {b : ℚ} {x y : Float} (hx : FloatUnsigned x) (hy : FloatWithin b y) :
    FloatWithin b (smaller x y) := by
  have hnumber : y.isNaN = false := by
    change y.toModel.unpack.isNaN = false
    unfold FloatWithin at hy
    generalize y.toModel.unpack = u at hy
    cases u <;> first | rfl | exact hy.elim
  unfold smaller
  simp only [hnumber, Bool.false_eq_true, if_false]
  split_ifs with hnan hless
  · exact hy
  · have hzero : FloatWithin b 0.0 := by trivial
    exact hzero.between hy (zero_le_of_lt hx hless) (float_le_of_lt hless)
  · exact hy

/-- A delay that is not too long before jitter has a duration, for every draw. -/
theorem delay_of_bounded {strategy : RetryStrategy} (hbounded : strategy.Bounded)
    (hvalid : strategy.invalid? = none) {spread : Float} (hlow : -1.0 ≤ spread)
    (hhigh : spread < 1.0) (attempt : ℕ) : ∃ d, strategy.delay attempt spread = .ok d := by
  cases strategy with
  | constant d => exact ⟨d, rfl⟩
  | exponential initial max multiplier jitter =>
    have hunit : ((2 ^ 52 : ℕ) : ℚ) * 2 ^ (-52 : ℤ) ≤ 1 := by norm_num
    have hone : FloatWithin 1 1.0 := hunit
    have hminus : FloatWithin 1 (-1.0) := hunit
    have hzero : FloatWithin 1 0.0 := by trivial
    simp only [RetryStrategy.invalid?] at hvalid
    split_ifs at hvalid with hmultiplier hjitter
    have hcapped : FloatWithin (2 ^ 55) (cappedSeconds initial max multiplier attempt) :=
      smaller_within (floatUnsigned_mul initial.seconds_unsigned
        (power_unsigned (floatUnsigned_of_not_lt hmultiplier) _))
        (Duration.seconds_within hbounded)
    have hspread : FloatWithin 1 spread := hminus.between hone hlow (float_le_of_lt hhigh)
    have hscale : FloatWithin 1 jitter := hzero.between hone hjitter.1 hjitter.2
    have hfactor : FloatWithin (2 * (1 + 2 * (1 * 1))) (1.0 + jitter * spread) := by
      refine floatWithin_add hone (floatWithin_mul hscale hspread ?_ ?_ ?_) ?_ ?_ ?_ <;> norm_num
    have hproduct : FloatWithin (2 ^ 63)
        (cappedSeconds initial max multiplier attempt * (1.0 + jitter * spread)) := by
      refine Within.mono (floatWithin_mul hcapped hfactor ?_ ?_ ?_) ?_ <;> norm_num
    simp only [delay]
    generalize hadjusted : (if 0.0 < jitter then
      cappedSeconds initial max multiplier attempt * (1.0 + jitter * spread)
      else cappedSeconds initial max multiplier attempt) = adjusted
    have hwithin : FloatWithin (2 ^ 63) adjusted := by
      rw [← hadjusted]
      split
      · exact hproduct
      · exact hcapped.mono (by norm_num)
    obtain ⟨d, hd⟩ := Duration.exists_ofSeconds hwithin le_rfl
    rw [hd]
    exact ⟨d, rfl⟩

end RetryStrategy

end Courier

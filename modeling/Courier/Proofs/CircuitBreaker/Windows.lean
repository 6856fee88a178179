import Courier.Proofs.CircuitBreaker.Calls
import Courier.Proofs.Rounding

/-!
# The window of a closed circuit

Whether a window opens the circuit is asked after a failure and never after a success. For the
number of failures this is enough: a success adds none. Their share is another matter. It falls with
a success, but it counts only from some number of outcomes on, and the outcome with which it begins
to count may be a success. Then it is left to the next failure to open the circuit
(`Calm.trips_of_not_mild`).

`Calm` is what holds of every window in every run. Its step is one lemma for each outcome: after a
failure the window was looked at (`Calm.push_failure`), and a success leaves a share that is not
greater than one that was below the threshold (`Calm.push_success`). The share is computed with
floats, so that "not greater" needs that rounding is monotone (`failureRate_lt_of_mul_le`).
`BreakerSettings.Steady` is the condition under which a success makes no share count that is too
large. It is exact: `exists_failing_then` reaches the largest share with which counting can begin.
-/

set_option autoImplicit false
set_option relaxedAutoImplicit false

namespace Courier

open Rehearsal (Settlement)

/-! ### The share of failures -/

namespace CircuitBreaker

variable {f f' n n' : ℕ} {t : Float}

/-- The percentage of failures is the rational one, rounded once. -/
theorem failureRate_rounded (hf : f * 100 < 2 ^ 53) (hn : n < 2 ^ 53) :
    RoundedTo (failureRate f n) ((f * 100 : ℕ) / (max n 1 : ℕ)) := by
  refine RoundedTo.div hf (by omega) (by omega) (fun hnone ↦ ?_) fun hpos ↦ ?_
  · obtain rfl : f = 0 := by omega
    rfl
  · have hhundred : (100.0 : Float).toModel.unpack =
        (FullFloat.whole 100 (by decide) (by decide)).unpacked := by rfl
    refine unpack_mul (unpack_ofNat (by omega) (by omega)) hhundred ?_
      (FullFloat.moderate_whole hpos hf)
    rw [FullFloat.value_whole, FullFloat.value_whole, FullFloat.value_whole]
    push_cast
    rfl

/-- The percentage is below a threshold where a greater share of failures is. -/
theorem failureRate_lt_of_mul_le (hshare : f * max n' 1 ≤ f' * max n 1) (hf : f * 100 < 2 ^ 53)
    (hf' : f' * 100 < 2 ^ 53) (hn : n < 2 ^ 53) (hn' : n' < 2 ^ 53)
    (hlt : failureRate f' n' < t) : failureRate f n < t := by
  refine (failureRate_rounded hf hn).lt_of_le (failureRate_rounded hf' hn') ?_ hlt
  have hcalls : (0 : ℚ) < (max n 1 : ℕ) := by positivity
  have hcalls' : (0 : ℚ) < (max n' 1 : ℕ) := by positivity
  rw [div_le_div_iff₀ hcalls hcalls']
  have hcross : f * 100 * max n' 1 ≤ f' * 100 * max n 1 := by
    rw [Nat.mul_right_comm f, Nat.mul_right_comm f']
    exact Nat.mul_le_mul_right 100 hshare
  exact_mod_cast hcross

theorem failureRate_lt_of_not_le (hf : f * 100 < 2 ^ 53) (hn : n < 2 ^ 53) (ht : 0.0 < t)
    (hle : ¬ t ≤ failureRate f n) : failureRate f n < t :=
  (failureRate_rounded hf hn).lt_of_not_le ht hle

/-- An outcome makes the window longer as long as there is room. -/
theorem push_length (b : CircuitBreaker) (failed : Bool) (hwindow : 1 ≤ b.settings.windowSize) :
    (b.push failed).window.length = min b.window.length (b.settings.windowSize - 1) + 1 := by
  rw [push_window, List.length_append, List.length_drop, List.length_singleton]
  omega

/-- A failure does not make the outcomes that are no failures more. -/
theorem push_count (b : CircuitBreaker) (hwindow : 1 ≤ b.settings.windowSize) :
    b.window.count true + (b.push true).window.length ≤
      (b.push true).window.count true + b.window.length := by
  let gone := b.window.length + 1 - b.settings.windowSize
  have hsplit : b.window.count true =
      (b.window.take gone).count true + (b.window.drop gone).count true := by
    rw [← List.count_append, List.take_append_drop]
  have hgone : (b.window.take gone).count true ≤ gone :=
    List.count_le_length.trans (List.length_take_le ..)
  have hcount : (b.push true).window.count true = (b.window.drop gone).count true + 1 := by
    rw [push_window, List.count_append]
    rfl
  have hlength := push_length b true hwindow
  omega

end CircuitBreaker

open CircuitBreaker (failureRate)

/-! ### Windows that do not open the circuit -/

namespace BreakerSettings

variable {s : BreakerSettings} {window : List Bool}

/-- The share of failures in a window does not count yet or is below the threshold. -/
def Mild (s : BreakerSettings) (window : List Bool) : Prop :=
  s.minimumCalls ≤ window.length →
    failureRate (window.count true) window.length < s.failureRateThreshold

/-- The share of failures is below the threshold when it begins to count with a success: the
outcomes before that success were all failures, or as many as do not open the circuit. -/
def Steady (s : BreakerSettings) : Prop :=
  s.minimumCalls ≤ s.windowSize →
    failureRate (min (s.failureThreshold - 1) (s.minimumCalls - 1)) s.minimumCalls <
      s.failureRateThreshold

instance (s : BreakerSettings) : Decidable s.Steady :=
  inferInstanceAs (Decidable (_ → _))

theorem rateThreshold_pos (hvalid : s.invalid? = none) : 0.0 < s.failureRateThreshold := by
  unfold invalid? at hvalid
  split_ifs at hvalid with h₁ h₂ h₃ h₄ h₅ h₆
  exact h₆.1

theorem Mild.nil (hvalid : s.invalid? = none) : s.Mild [] := fun _ ↦ rateThreshold_pos hvalid

end BreakerSettings

/-- What holds of the window of a closed circuit at every point of a run. -/
structure Calm (s : BreakerSettings) (window : List Bool) : Prop where
  count_lt : window.count true < s.failureThreshold
  mild_of_failure : window.getLast? = some true → s.Mild window
  mild_of_steady : s.Steady → s.Mild window

namespace Calm

variable {b : CircuitBreaker}

theorem nil {s : BreakerSettings} (hvalid : s.invalid? = none) : Calm s [] where
  count_lt := (CircuitBreaker.bounds_of_valid hvalid).1
  mild_of_failure := fun _ ↦ .nil hvalid
  mild_of_steady := fun _ ↦ .nil hvalid

/-- A window that was looked at and did not open the circuit. -/
theorem of_not_tripped (hvalid : b.settings.invalid? = none)
    (hsize : b.settings.windowSize < 2 ^ 32) (hfailures : b.failures = b.window.count true)
    (hfull : b.window.length ≤ b.settings.windowSize) (hstays : b.tripped = false) :
    Calm b.settings b.window := by
  have hbound : b.window.count true ≤ b.window.length := List.count_le_length
  obtain ⟨hfew, hrate⟩ : b.window.count true < b.settings.failureThreshold ∧
      (b.settings.minimumCalls ≤ b.window.length → ¬ b.settings.failureRateThreshold ≤
        failureRate (b.window.count true) b.window.length) := by
    simpa [CircuitBreaker.tripped, hfailures] using hstays
  have hmild : b.settings.Mild b.window := fun hcalls ↦
    CircuitBreaker.failureRate_lt_of_not_le (by omega) (by omega)
      (BreakerSettings.rateThreshold_pos hvalid) (hrate hcalls)
  exact ⟨hfew, fun _ ↦ hmild, fun _ ↦ hmild⟩

/-- After a failure that does not open the circuit. -/
theorem push_failure (hvalid : b.settings.invalid? = none) (hsize : b.settings.windowSize < 2 ^ 32)
    (hfailures : b.failures = b.window.count true) (hstays : (b.push true).tripped = false) :
    Calm b.settings (b.push true).window := by
  obtain ⟨-, -, hwindow, -⟩ := CircuitBreaker.bounds_of_valid hvalid
  exact of_not_tripped (b := b.push true) hvalid hsize
    (CircuitBreaker.push_failures true hfailures) (CircuitBreaker.push_window_length true hwindow)
    hstays

/-- After a success, which is not followed by a look at the window. -/
theorem push_success (h : Calm b.settings b.window) (hsize : b.settings.windowSize < 2 ^ 32)
    (hfull : b.window.length ≤ b.settings.windowSize) (hwindow : 1 ≤ b.settings.windowSize) :
    Calm b.settings (b.push false).window := by
  have hcount : (b.push false).window.count true ≤ b.window.count true := by
    rw [CircuitBreaker.push_window, List.count_append]
    exact (List.drop_sublist ..).count_le true
  have hlength := CircuitBreaker.push_length b false hwindow
  have hbound : b.window.count true ≤ b.window.length := List.count_le_length
  have hfew := h.count_lt
  refine ⟨Nat.lt_of_le_of_lt hcount hfew, fun hlast ↦ ?_, fun hsteady hcalls ↦ ?_⟩
  · rw [CircuitBreaker.push_window, List.getLast?_append] at hlast
    cases hlast
  · by_cases hearlier : b.settings.minimumCalls ≤ b.window.length
    · exact CircuitBreaker.failureRate_lt_of_mul_le (Nat.mul_le_mul hcount (by omega)) (by omega)
        (by omega) (by omega) (by omega) (h.mild_of_steady hsteady hearlier)
    · -- the share begins to count with this success
      have hbegins : b.settings.minimumCalls = (b.push false).window.length := by omega
      exact CircuitBreaker.failureRate_lt_of_mul_le (Nat.mul_le_mul (by omega) (by omega))
        (by omega) (by omega) (by omega) (by omega) (hsteady (by omega))

/-- Where the share of failures is not below the threshold, the next failure opens the circuit, for
it does not lower the share. -/
theorem trips_of_not_mild (hvalid : b.settings.invalid? = none)
    (hsize : b.settings.windowSize < 2 ^ 32) (hfailures : b.failures = b.window.count true)
    (hfull : b.window.length ≤ b.settings.windowSize) (hmild : ¬ b.settings.Mild b.window) :
    (b.push true).tripped = true := by
  by_contra hstays
  obtain ⟨-, -, hwindow, -⟩ := CircuitBreaker.bounds_of_valid hvalid
  have hcalm := push_failure hvalid hsize hfailures (Bool.eq_false_of_not_eq_true hstays)
  have hlast : (b.push true).window.getLast? = some true := by
    rw [CircuitBreaker.push_window, List.getLast?_concat]
  have hlength := CircuitBreaker.push_length b true hwindow
  have hcount := CircuitBreaker.push_count b hwindow
  have hbound : b.window.count true ≤ b.window.length := List.count_le_length
  have hbound' : (b.push true).window.count true ≤ (b.push true).window.length :=
    List.count_le_length
  refine hmild fun hcalls ↦ ?_
  have hbelow := hcalm.mild_of_failure hlast (by omega)
  refine CircuitBreaker.failureRate_lt_of_mul_le ?_ (by omega) (by omega) (by omega) (by omega)
    hbelow
  obtain ⟨more, hmore⟩ : ∃ more, (b.push true).window.length = b.window.length + more :=
    Nat.exists_eq_add_of_le (by omega)
  rw [max_eq_left (by omega : 1 ≤ (b.push true).window.length), hmore]
  calc
    b.window.count true * (b.window.length + more)
      = b.window.count true * b.window.length + b.window.count true * more := Nat.mul_add ..
    _ ≤ b.window.count true * b.window.length + more * b.window.length := by
      rw [Nat.mul_comm more]
      exact Nat.add_le_add_left (Nat.mul_le_mul_right more hbound) _
    _ = (b.window.count true + more) * b.window.length := (Nat.add_mul ..).symm
    _ ≤ (b.push true).window.count true * max b.window.length 1 :=
      Nat.mul_le_mul (by omega) (Nat.le_max_left ..)

end Calm

/-! ### Every run -/

namespace CircuitBreaker

/-- Asking for a permit leaves the window or empties it. -/
theorem acquire_window (b : CircuitBreaker) (now : ℕ) :
    (b.acquire now).2.window = b.window ∨ (b.acquire now).2.window = [] := by
  unfold acquire
  split
  · exact .inl rfl
  · split_ifs
    · exact .inr rfl
    · exact .inl rfl
  · split_ifs <;> exact .inl rfl

/-- Settling a permit may put its outcome into the window as well. -/
theorem apply_window (b : CircuitBreaker) (how : Settlement) (p : CallPermit) (now : ℕ) :
    (how.apply b p now).2.window = b.window ∨ (how.apply b p now).2.window = [] ∨
      (how.apply b p now).2.window = (b.push false).window ∨
      (how.apply b p now).2.window = (b.push true).window ∧ (b.push true).tripped = false := by
  cases how with
  | succeed =>
    simp only [Settlement.apply, succeed]
    split_ifs
    · exact .inl rfl
    · exact .inr (.inl rfl)
    · exact .inl rfl
    · exact .inr (.inr (.inl rfl))
  | fail =>
    simp only [Settlement.apply, fail]
    split_ifs with hstale htrial htripped
    · exact .inl rfl
    · exact .inr (.inl rfl)
    · exact .inr (.inl rfl)
    · exact .inr (.inr (.inr ⟨rfl, by simpa using htripped⟩))
  | drop =>
    simp only [Settlement.apply, drop]
    split_ifs <;> exact .inl rfl

end CircuitBreaker

namespace Custody

variable {c : Custody} {s : BreakerSettings}

/-- A deed leaves the window, empties it or puts an outcome into it, and a failure that it leaves
there did not open the circuit. -/
theorem act_window (c : Custody) (deed : Deed) :
    (c.act deed).breaker.window = c.breaker.window ∨ (c.act deed).breaker.window = [] ∨
      (c.act deed).breaker.window = (c.breaker.push false).window ∨
      (c.act deed).breaker.window = (c.breaker.push true).window ∧
        (c.breaker.push true).tripped = false := by
  cases deed with
  | acquire =>
    have hbreaker : (c.act .acquire).breaker = (c.breaker.acquire c.now).2 := by
      simp only [act, acquire]
      split <;> simp_all
    rw [hbreaker]
    exact (CircuitBreaker.acquire_window c.breaker c.now).imp_right .inl
  | settle place how =>
    cases hplace : c.held[place]? with
    | none => simp [act, settle, hplace]
    | some h =>
      have hbreaker : (c.act (.settle place how)).breaker =
          (how.apply c.breaker h.permit c.now).2 := by
        simp [act, settle, hplace]
      rw [hbreaker]
      exact CircuitBreaker.apply_window c.breaker how h.permit c.now
  | reset => exact .inr (.inl rfl)
  | wait time => exact .inl rfl

/-- Every deed leaves the window calm. -/
theorem act_calm (hs : c.Sound) (hvalid : c.breaker.settings.invalid? = none)
    (hsize : c.breaker.settings.windowSize < 2 ^ 32)
    (hcalm : Calm c.breaker.settings c.breaker.window) (deed : Deed) :
    Calm c.breaker.settings (c.act deed).breaker.window := by
  obtain ⟨-, -, hwindow, -⟩ := CircuitBreaker.bounds_of_valid hvalid
  obtain heq | heq | heq | ⟨heq, hstays⟩ := act_window c deed <;> rw [heq]
  · exact hcalm
  · exact .nil hvalid
  · exact hcalm.push_success hsize hs.window_length_le hwindow
  · exact .push_failure hvalid hsize hs.failures_eq hstays

/-- The window is calm in every run. -/
theorem run_calm (hvalid : s.invalid? = none) (hsize : s.windowSize < 2 ^ 32)
    (deeds : List Deed) : Calm s (run s deeds).breaker.window := by
  induction deeds using List.reverseRecOn with
  | nil => exact .nil hvalid
  | append_singleton deeds deed ih =>
    obtain ⟨hsound, hsettings⟩ := run_sound hvalid deeds
    have hcalm := act_calm hsound (by rwa [hsettings]) (by rwa [hsettings]) (by rwa [hsettings])
      deed
    rwa [hsettings, ← run_concat] at hcalm

end Custody

/-! ### The condition is exact -/

namespace Annals

variable {a a' : Annals} {s : BreakerSettings} {n : ℕ}

/-- Failures that left the circuit closed are followed by successes. -/
theorem Failing.exists_then (h : Failing a a' n) (more : ℕ)
    (hroom : n + more ≤ a.custody.breaker.settings.windowSize) :
    ∃ a'', Leads 0 a a'' ∧ a''.custody.breaker.state = .closed ∧
      a''.custody.breaker.window = List.replicate n true ++ List.replicate more false := by
  induction more with
  | zero => exact ⟨a', h.leads, h.closed, h.window_eq.trans (List.append_nil _).symm⟩
  | succ more ih =>
    obtain ⟨a'', hleads, hclosed, hwindow⟩ := ih (by omega)
    have hlength : a''.custody.breaker.window.length < a''.custody.breaker.settings.windowSize := by
      rw [hwindow, hleads.settings, List.length_append, List.length_replicate,
        List.length_replicate]
      omega
    have hnext := (hleads.act .acquire).act (.settle 0 .succeed)
    rw [call_succeed hclosed, CircuitBreaker.push_of_room false hlength] at hnext
    refine ⟨_, hnext, hclosed, ?_⟩
    show a''.custody.breaker.window ++ [false] = _
    rw [hwindow, List.append_assoc, List.replicate_succ']

/-- The share of failures begins to count with a success, after as many failures as possible. -/
theorem exists_failing_then (s : BreakerSettings) (hvalid : s.invalid? = none)
    (hcalls : s.minimumCalls ≤ s.windowSize) :
    ∃ deeds, (run s deeds).custody.breaker.state = .closed ∧
      (run s deeds).custody.breaker.window.length = s.minimumCalls ∧
      (run s deeds).custody.breaker.window.count true =
        min (s.failureThreshold - 1) (s.minimumCalls - 1) := by
  obtain ⟨hpositive, -, -, -⟩ := CircuitBreaker.bounds_of_valid hvalid
  have hfresh : Failing ⟨Custody.start s, []⟩ ⟨Custody.start s, []⟩ 0 :=
    ⟨⟨.refl _, rfl, rfl⟩, rfl, rfl, rfl⟩
  have hroom : min (s.failureThreshold - 1) (s.minimumCalls - 1) ≤ s.windowSize := by omega
  obtain ⟨a, hfailing⟩ := hfresh.exists_of_untripped _ hroom fun k hk ↦ by
    show ¬ BreakerHistory.Trips s (List.replicate (k + 1) true)
    rw [BreakerHistory.Trips, List.count_replicate_self, List.length_replicate]
    rintro (hmany | ⟨henough, -⟩) <;> omega
  obtain ⟨a', ⟨deeds, rfl, -⟩, hclosed, hwindow⟩ := hfailing.exists_then
    (s.minimumCalls - min (s.failureThreshold - 1) (s.minimumCalls - 1)) (by
      show _ ≤ s.windowSize
      omega)
  refine ⟨deeds, hclosed, ?_, ?_⟩
  · rw [run, hwindow, List.length_append, List.length_replicate, List.length_replicate]
    omega
  · rw [run, hwindow, List.count_append, List.count_replicate_self, List.count_replicate]
    rfl

end Annals

namespace Custody

/-- In every run of a breaker with valid settings and a window size of 32 bits, while the circuit is
closed, the window holds fewer failures than open it, and after a failure their share does not count
yet or is below the threshold. After a success this need not be so, but then the next failure opens
the circuit. It is so in all runs exactly if the settings are steady: the largest share that can
begin to count with a success is below the threshold. -/
theorem closed_window_bounds (s : BreakerSettings) (hvalid : s.invalid? = none)
    (hsize : s.windowSize < 2 ^ 32) :
    (∀ deeds, let b := (run s deeds).breaker
      b.state = .closed → b.window.count true < s.failureThreshold ∧
        (b.window.getLast? = some true → s.Mild b.window) ∧
        (¬ s.Mild b.window → ∀ now, (b.fail (b.permit false) now).1 = some ⟨.closed, .opened⟩)) ∧
      ((∀ deeds, let b := (run s deeds).breaker
        b.state = .closed → s.Mild b.window) ↔ s.Steady) := by
  have hcalm := run_calm hvalid hsize
  refine ⟨fun deeds hclosed ↦
      ⟨(hcalm deeds).count_lt, (hcalm deeds).mild_of_failure, fun hmild now ↦ ?_⟩,
    fun hmild hcalls ↦ ?_, fun hsteady deeds _ ↦ (hcalm deeds).mild_of_steady hsteady⟩
  · obtain ⟨hsound, hsettings⟩ := run_sound hvalid deeds
    have htrips := Calm.trips_of_not_mild (by rwa [hsettings]) (by rwa [hsettings])
      hsound.failures_eq hsound.window_length_le (by rwa [hsettings])
    rw [CircuitBreaker.fail_call rfl rfl, if_pos htrips, hclosed]
  · obtain ⟨deeds, hclosed, hlength, hcount⟩ := Annals.exists_failing_then s hvalid hcalls
    rw [Annals.run_custody] at hclosed hlength hcount
    have hbelow := hmild deeds hclosed hlength.ge
    rwa [hlength, hcount] at hbelow

/-- The default settings are steady: at most four failures are among the first ten outcomes. -/
theorem closed_window_bounds_default :
    BreakerSettings.invalid? {} = none ∧
      ∀ deeds, (run {} deeds).breaker.state = .closed →
        BreakerSettings.Mild {} (run {} deeds).breaker.window := by
  have hvalid : BreakerSettings.invalid? {} = none := by decide +kernel
  have hsteady : BreakerSettings.Steady {} := by decide +kernel
  exact ⟨hvalid, (closed_window_bounds {} hvalid (by decide)).2.mpr hsteady⟩

/-- Half of four outcomes are failures and the percentage counts from four outcomes on, but the
fourth is a success and the circuit stays closed. -/
theorem closed_window_half_failed :
    BreakerSettings.invalid?
        { failureThreshold := 10, minimumCalls := 4, windowSize := 10 } = none ∧
      let b := (run { failureThreshold := 10, minimumCalls := 4, windowSize := 10 }
        [.acquire, .settle 0 .fail, .acquire, .settle 0 .fail,
          .acquire, .settle 0 .succeed, .acquire, .settle 0 .succeed]).breaker
      b.state = .closed ∧ b.window = [true, true, false, false] ∧
        b.settings.minimumCalls ≤ b.window.length ∧
          b.settings.failureRateThreshold ≤ failureRate (b.window.count true) b.window.length :=
  ⟨by decide +kernel, by decide +kernel, by decide +kernel, by decide +kernel, by decide +kernel⟩

end Custody

end Courier

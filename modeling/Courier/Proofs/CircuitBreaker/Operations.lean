import Courier.Rehearsal.Permits
import Mathlib.Data.Nat.Notation
import Mathlib.Tactic.SplitIfs

/-!
# The single operations of a circuit breaker

What one operation does to a breaker, one lemma for each way in which it can go. Asking for a permit
has five outcomes (`acquire_closed` to `acquire_full`). A permit of an earlier period is settled
without any effect (`apply_stale`); one of the present period either is a trial, which counts or
moves the breaker (`succeed_trial`, `fail_trial`, `drop_trial`), or records an outcome in the window
(`succeed_call`, `fail_call`, `drop_call`).

`push_window` is the law of the window: it holds the most recent outcomes, and `push_failures` that
the failures counted along are the failures stored. `makeRoom?` is `makeRoom` with a subtraction
that gives up below zero; `makeRoom?_eq` shows that it never does so where the count is right.
-/

set_option autoImplicit false
set_option relaxedAutoImplicit false

namespace Courier.CircuitBreaker

open Rehearsal (Settlement)

variable {b : CircuitBreaker} {p : CallPermit} {now : ℕ}

/-! ### Asking for a permit -/

theorem acquire_closed (h : b.state = .closed) : b.acquire now = (some (b.permit false), b) := by
  simp [acquire, h]

theorem acquire_waited (h : b.state = .opened) (hw : b.waited now = true) :
    b.acquire now =
      (some ⟨b.period + 1, true⟩, { b.moveTo .halfOpen now with trials := 1 }) := by
  simp [acquire, h, hw, permit, moveTo]

theorem acquire_waiting (h : b.state = .opened) (hw : b.waited now = false) :
    b.acquire now = (none, b) := by
  simp [acquire, h, hw]

theorem acquire_trial (h : b.state = .halfOpen) (ht : b.trials < b.settings.permittedTrials) :
    b.acquire now = (some (b.permit true), { b with trials := b.trials + 1 }) := by
  simp [acquire, h, Nat.not_le.mpr ht, permit]

theorem acquire_full (h : b.state = .halfOpen) (ht : b.settings.permittedTrials ≤ b.trials) :
    b.acquire now = (none, b) := by
  simp [acquire, h, ht]

/-! ### Settling a permit -/

/-- A permit of another period changes nothing, however it is settled. -/
theorem apply_stale (how : Settlement) (h : p.period ≠ b.period) :
    how.apply b p now = (none, b) := by
  cases how with
  | succeed => simp [Settlement.apply, succeed, h]
  | fail => simp [Settlement.apply, fail, h]
  | drop => simp [Settlement.apply, drop, h]

theorem succeed_trial (h : p.period = b.period) (ht : p.trial = true) :
    b.succeed p now =
      if b.settings.successThreshold ≤ b.successes + 1 then
        (some ⟨b.state, .closed⟩, b.moveTo .closed now)
      else (none, { b with trials := b.trials - 1, successes := b.successes + 1 }) := by
  simp [succeed, h, ht, moveTo]

theorem succeed_call (h : p.period = b.period) (ht : p.trial = false) :
    b.succeed p now = (none, b.push false) := by
  simp [succeed, h, ht]

theorem fail_trial (h : p.period = b.period) (ht : p.trial = true) :
    b.fail p now = (some ⟨b.state, .opened⟩, b.moveTo .opened now) := by
  simp [fail, h, ht]

theorem fail_call (h : p.period = b.period) (ht : p.trial = false) :
    b.fail p now =
      if (b.push true).tripped then
        (some ⟨b.state, .opened⟩, (b.push true).moveTo .opened now)
      else (none, b.push true) := by
  simp [fail, h, ht, push]

theorem drop_trial (h : p.period = b.period) (ht : p.trial = true) :
    b.drop p = { b with trials := b.trials - 1 } := by
  simp [drop, h, ht]

theorem drop_call (ht : p.trial = false) : b.drop p = b := by
  simp [drop, ht]

/-- Settling a permit leaves the state as it was, or as the transition says that it causes. -/
theorem apply_state (how : Settlement) :
    (how.apply b p now).2.state = ((how.apply b p now).1.map Transition.target).getD b.state := by
  cases how with
  | succeed =>
    simp only [Settlement.apply, succeed]
    split_ifs <;> rfl
  | fail =>
    simp only [Settlement.apply, fail]
    split_ifs <;> rfl
  | drop =>
    simp only [Settlement.apply, drop]
    split_ifs <;> rfl

/-! ### The window -/

/-- The window keeps the most recent outcomes for which there is room. -/
theorem makeRoom_fst (size failures : ℕ) (window : List Bool) :
    (makeRoom size window failures).1 = window.drop (window.length + 1 - size) := by
  induction window generalizing failures with
  | nil => simp [makeRoom]
  | cons oldest window ih =>
    by_cases hfull : size ≤ (oldest :: window).length
    · have hlength : (oldest :: window).length + 1 - size = window.length + 1 - size + 1 := by
        simp only [List.length_cons] at hfull ⊢
        omega
      rw [makeRoom, if_pos hfull, ih, hlength, List.drop_succ_cons]
    · have hlength : (oldest :: window).length + 1 - size = 0 := by omega
      rw [makeRoom, if_neg hfull, hlength, List.drop_zero]

/-- The failures counted along are those that are left. -/
theorem makeRoom_snd (size : ℕ) (window : List Bool) :
    (makeRoom size window (window.count true)).2 =
      (makeRoom size window (window.count true)).1.count true := by
  induction window with
  | nil => simp [makeRoom]
  | cons oldest window ih =>
    by_cases hfull : size ≤ (oldest :: window).length
    · have hcount : (if oldest then (oldest :: window).count true - 1
          else (oldest :: window).count true) = window.count true := by
        cases oldest <;> simp
      rw [makeRoom, if_pos hfull, hcount, ih]
    · rw [makeRoom, if_neg hfull]

/-- Making room with a subtraction that gives up below zero. -/
def makeRoom? (size : ℕ) : List Bool → ℕ → Option (List Bool × ℕ)
  | [], failures => some ([], failures)
  | oldest :: window, failures =>
    if size ≤ (oldest :: window).length then
      if oldest then
        if failures = 0 then none else makeRoom? size window (failures - 1)
      else makeRoom? size window failures
    else some (oldest :: window, failures)

/-- Where the failures are counted right, no subtraction goes below zero. -/
theorem makeRoom?_eq (size : ℕ) (window : List Bool) :
    makeRoom? size window (window.count true) =
      some (makeRoom size window (window.count true)) := by
  induction window with
  | nil => rfl
  | cons oldest window ih =>
    by_cases hfull : size ≤ (oldest :: window).length
    · rw [makeRoom?, makeRoom, if_pos hfull, if_pos hfull]
      cases oldest <;> simpa using ih
    · rw [makeRoom?, makeRoom, if_neg hfull, if_neg hfull]

/-- After an outcome the window holds the most recent ones, that outcome last. -/
theorem push_window (b : CircuitBreaker) (failed : Bool) :
    (b.push failed).window =
      b.window.drop (b.window.length + 1 - b.settings.windowSize) ++ [failed] := by
  simp [push, makeRoom_fst]

/-- After an outcome the failures counted are those in the window, if they were before. -/
theorem push_failures (failed : Bool) (h : b.failures = b.window.count true) :
    (b.push failed).failures = (b.push failed).window.count true := by
  have hroom := makeRoom_snd b.settings.windowSize b.window
  rw [← h] at hroom
  cases failed <;> simp [push, hroom]

theorem push_window_length (failed : Bool) (hs : 1 ≤ b.settings.windowSize) :
    (b.push failed).window.length ≤ b.settings.windowSize := by
  rw [push_window, List.length_append, List.length_drop, List.length_singleton]
  omega

@[simp] theorem push_settings (failed : Bool) : (b.push failed).settings = b.settings := rfl

/-! ### Settings -/

@[simp] theorem acquire_settings : (b.acquire now).2.settings = b.settings := by
  unfold acquire
  split
  · rfl
  · split_ifs <;> rfl
  · split_ifs <;> rfl

@[simp] theorem apply_settings (how : Settlement) :
    (how.apply b p now).2.settings = b.settings := by
  cases how with
  | succeed =>
    simp only [Settlement.apply, succeed]
    split_ifs <;> rfl
  | fail =>
    simp only [Settlement.apply, fail]
    split_ifs <;> rfl
  | drop =>
    simp only [Settlement.apply, drop]
    split_ifs <;> rfl

/-- Settings in which nothing is wrong have positive bounds. -/
theorem bounds_of_valid {s : BreakerSettings} (h : s.invalid? = none) :
    1 ≤ s.failureThreshold ∧ 1 ≤ s.successThreshold ∧ 1 ≤ s.windowSize ∧
      1 ≤ s.permittedTrials := by
  unfold BreakerSettings.invalid? at h
  split_ifs at h with h₁ h₂ h₃ h₄ h₅ h₆
  omega

end Courier.CircuitBreaker

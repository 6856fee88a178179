import Courier.Proofs.CircuitBreaker.Calls

/-!
# Trials that outlive their half open period

A half open breaker counts the trials that it admits, and every move begins that count anew. The
trials of the period that ends are still under way, though: their callers are as slow as before. So
the settings bound the trials of one period (`Custody.Sound.trials_le`), and not those at the
endpoint.

How many there can be at the endpoint is told by two numbers of a run: the periods in which the
breaker was half open, and the resets. `Annals.Spent` is the invariant that bounds the trials by
them. A half open period that ends without a reset ends with one of its own trials, which is then no
longer under way, and that is all that is ever given back. `Spent.act` is the step. The bound is
reached: `exists_opened` opens a closed circuit with calls that fail, `exists_trying` fills a half
open period with trials, and `exists_run_trying` does so over and over.
-/

set_option autoImplicit false
set_option relaxedAutoImplicit false

namespace Courier

open Rehearsal (Settlement)

/-- The trials under way, whichever half open period granted them. -/
def Custody.trialsOut (c : Custody) : ℕ := c.held.countP fun h ↦ h.permit.trial

namespace Custody

variable {c : Custody}

/-- Taking a permit out of those held takes it out of the trials under way. -/
theorem trialsOut_eraseIdx {place : ℕ} {h : HeldPermit} (hplace : c.held[place]? = some h) :
    c.trialsOut = trialsOut { c with held := c.held.eraseIdx place } +
      if h.permit.trial then 1 else 0 := by
  obtain ⟨hlt, rfl⟩ := List.getElem?_eq_some_iff.mp hplace
  rw [trialsOut, ← (List.getElem_cons_eraseIdx_perm hlt).countP_eq, List.countP_cons]
  rfl

end Custody

namespace CircuitBreaker

variable {b : CircuitBreaker} {p : CallPermit} {now : ℕ}

/-- Settling a permit makes no breaker half open. -/
theorem apply_target (how : Settlement) {transition : Transition}
    (h : (how.apply b p now).1 = some transition) : transition.target ≠ .halfOpen := by
  cases how with
  | succeed =>
    simp only [Settlement.apply, succeed] at h
    split_ifs at h
    cases h
    simp
  | fail =>
    simp only [Settlement.apply, fail] at h
    split_ifs at h <;> cases h <;> simp
  | drop => cases h

/-- While the period goes on, a permit takes no more from the trials counted than the one it is. -/
theorem apply_trials (how : Settlement) (h : (how.apply b p now).1 = none) :
    b.trials ≤ (how.apply b p now).2.trials + if p.trial then 1 else 0 := by
  cases how with
  | succeed =>
    simp only [Settlement.apply, succeed] at h ⊢
    split_ifs at h ⊢ <;> simp [push]
    omega
  | fail =>
    simp only [Settlement.apply, fail] at h ⊢
    split_ifs at h ⊢ <;> simp [push]
  | drop =>
    simp only [Settlement.apply, drop]
    split_ifs <;> simp_all
    omega

end CircuitBreaker

namespace Annals

variable {a : Annals} {s : BreakerSettings}

/-! ### The bound -/

@[simp] theorem halfOpenings_event (how : Settlement) (ticket : ℕ) (past : BreakerHistory) :
    BreakerHistory.halfOpenings (how.event ticket :: past) = past.halfOpenings := by
  cases how <;> rfl

theorem halfOpenings_moved {target : CircuitState} (htarget : target ≠ .halfOpen) (time : ℕ)
    (past : BreakerHistory) :
    BreakerHistory.halfOpenings (.moved target time :: past) = past.halfOpenings := by
  cases target with
  | halfOpen => exact absurd rfl htarget
  | closed => rfl
  | opened => rfl

/-- One for a circuit that is half open. -/
def halves (a : Annals) : ℕ := if a.past.state = .halfOpen then 1 else 0

/-- What the trials under way have cost. Of each half open period that is over, all the trials that
are permitted may still be under way if a reset ended it, and all but one if not; of the one that
goes on there are those it counts. -/
def Spent (a : Annals) (resets : ℕ) : Prop :=
  ∃ cut ≤ resets, cut + a.halves ≤ a.past.halfOpenings ∧
    a.custody.trialsOut + a.past.halfOpenings +
        a.custody.breaker.settings.permittedTrials * a.halves ≤
      a.custody.breaker.trials + a.custody.breaker.settings.permittedTrials * a.past.halfOpenings +
        a.halves + cut

theorem halves_of_halfOpen (hhalf : a.past.state = .halfOpen) : a.halves = 1 := if_pos hhalf

theorem halves_of_ne (hhalf : a.past.state ≠ .halfOpen) : a.halves = 0 := if_neg hhalf

theorem halves_le (a : Annals) : a.halves ≤ 1 := by
  unfold halves
  split_ifs <;> decide

/-- Nothing that was seen began or ended a half open period. -/
theorem Spent.kept {a' : Annals} {resets : ℕ} (hspent : a.Spent resets)
    (hsettings : a'.custody.breaker.settings = a.custody.breaker.settings)
    (hstate : a'.past.state = a.past.state)
    (hopenings : a'.past.halfOpenings = a.past.halfOpenings)
    (htrials : a'.custody.trialsOut + a.custody.breaker.trials ≤
      a.custody.trialsOut + a'.custody.breaker.trials) : a'.Spent resets := by
  obtain ⟨cut, hcut, hover, hcost⟩ := hspent
  have hhalves : a'.halves = a.halves := by rw [halves, halves, hstate]
  refine ⟨cut, hcut, by rwa [hhalves, hopenings], ?_⟩
  rw [hhalves, hopenings, hsettings]
  omega

/-- A period ends. A half open one ends with one of its trials, or is cut short. -/
theorem Spent.left {a' : Annals} {resets : ℕ} (hspent : a.Spent resets) (hf : a.Faithful)
    (given cut : ℕ) (hstate : a'.past.state ≠ .halfOpen)
    (hsettings : a'.custody.breaker.settings = a.custody.breaker.settings)
    (hopenings : a'.past.halfOpenings = a.past.halfOpenings)
    (hgiven : a.custody.trialsOut = a'.custody.trialsOut + given)
    (hpaid : a.halves ≤ given + cut) (hcut : cut ≤ a.halves) : a'.Spent (resets + cut) := by
  obtain ⟨before, hbefore, hover, hcost⟩ := hspent
  have htrials := hf.sound.trials_le
  refine ⟨before + cut, Nat.add_le_add_right hbefore cut, ?_, ?_⟩
  · rw [halves_of_ne hstate, hopenings]
    omega
  · rw [halves_of_ne hstate, hopenings, hsettings]
    by_cases hhalf : a.past.state = .halfOpen
    · rw [halves_of_halfOpen hhalf] at hcost hpaid
      omega
    · have hnone := hf.sound.trials_eq_zero (hf.state_eq ▸ hhalf)
      rw [halves_of_ne hhalf] at hcost hpaid
      omega

/-- Asking for a permit. -/
theorem Spent.acquire {resets : ℕ} (hspent : a.Spent resets) (hf : a.Faithful) :
    (a.act .acquire).Spent resets := by
  have hpast := hf.state_eq
  cases hstate : a.custody.breaker.state with
  | closed =>
    refine hspent.kept ?_ ?_ ?_ ?_ <;>
      simp [act, Custody.act, Custody.acquire, seen, CircuitBreaker.acquire_closed hstate,
        BreakerHistory.state, BreakerHistory.halfOpenings, Custody.trialsOut, CircuitBreaker.permit]
  | opened =>
    cases hwaited : a.custody.breaker.waited a.custody.now with
    | false =>
      refine hspent.kept ?_ ?_ ?_ ?_ <;>
        simp [act, Custody.act, Custody.acquire, seen,
          CircuitBreaker.acquire_waiting hstate hwaited, BreakerHistory.state,
          BreakerHistory.halfOpenings, Custody.trialsOut]
    | true =>
      have hhalf : a.past.state ≠ .halfOpen := by simp [← hpast, hstate]
      have hnone := hf.sound.trials_eq_zero (by simp [hstate])
      obtain ⟨cut, hcut, hover, hcost⟩ := hspent
      rw [halves_of_ne hhalf, hnone] at hcost
      rw [halves_of_ne hhalf] at hover
      refine ⟨cut, hcut, ?_, ?_⟩ <;>
        simp [act, Custody.act, Custody.acquire, seen,
          CircuitBreaker.acquire_waited hstate hwaited, BreakerHistory.state,
          BreakerHistory.halfOpenings, Custody.trialsOut, halves, CircuitBreaker.moveTo, hstate]
      · omega
      · rw [Custody.trialsOut] at hcost
        rw [Nat.mul_succ]
        omega
  | halfOpen =>
    by_cases hroom : a.custody.breaker.trials < a.custody.breaker.settings.permittedTrials
    · refine hspent.kept ?_ ?_ ?_ ?_ <;>
        simp [act, Custody.act, Custody.acquire, seen,
          CircuitBreaker.acquire_trial hstate hroom, BreakerHistory.state,
          BreakerHistory.halfOpenings, Custody.trialsOut, CircuitBreaker.permit]
      omega
    · refine hspent.kept ?_ ?_ ?_ ?_ <;>
        simp [act, Custody.act, Custody.acquire, seen,
          CircuitBreaker.acquire_full hstate (Nat.not_lt.mp hroom), BreakerHistory.state,
          BreakerHistory.halfOpenings, Custody.trialsOut]

/-- Settling a permit. -/
theorem Spent.settle {resets : ℕ} (hspent : a.Spent resets) (hf : a.Faithful) (place : ℕ)
    (how : Settlement) : (a.act (.settle place how)).Spent resets := by
  cases hplace : a.custody.held[place]? with
  | none =>
    simp only [act, Custody.act, Custody.settle, seen, hplace]
    exact hspent
  | some h =>
    simp only [act, Custody.act, Custody.settle, seen, hplace]
    have hmem : h ∈ a.custody.held := List.mem_of_getElem? hplace
    have hout := Custody.trialsOut_eraseIdx hplace
    cases hmoved : (how.apply a.custody.breaker h.permit a.custody.now).1 with
    | none =>
      have htrials := CircuitBreaker.apply_trials how hmoved
      refine hspent.kept (CircuitBreaker.apply_settings how) ?_ ?_ ?_
      · exact state_event how h.ticket a.past
      · exact halfOpenings_event how h.ticket a.past
      · simp only [Custody.trialsOut] at hout ⊢
        omega
    | some transition =>
      have htarget := CircuitBreaker.apply_target how hmoved
      refine hspent.left hf (if h.permit.trial then 1 else 0) 0 htarget
        (CircuitBreaker.apply_settings how) ?_ hout ?_ (Nat.zero_le _)
      · exact (halfOpenings_moved htarget _ _).trans (halfOpenings_event how h.ticket a.past)
      · by_cases hhalf : a.past.state = .halfOpen
        · have hcurrent : a.custody.IsCurrent h := by
            by_contra hstale
            simp [CircuitBreaker.apply_stale how hstale] at hmoved
          have htrial := (hf.sound.trial_iff h hmem hcurrent).mpr (hf.state_eq.trans hhalf)
          rw [halves_of_halfOpen hhalf, if_pos htrial]
        · rw [halves_of_ne hhalf]
          exact Nat.zero_le _

/-- Every deed leaves the trials under way paid for. -/
theorem Spent.act {resets : ℕ} (hspent : a.Spent resets) (hf : a.Faithful) (deed : Custody.Deed) :
    (a.act deed).Spent (resets + if deed.isReset then 1 else 0) := by
  cases deed with
  | acquire => exact hspent.acquire hf
  | settle place how => exact hspent.settle hf place how
  | wait time => exact hspent.kept rfl rfl rfl (Nat.le_refl _)
  | reset =>
    have hclosed : (a.act .reset).past.state ≠ .halfOpen := CircuitState.noConfusion
    obtain ⟨cut, hcut, hbound⟩ := hspent.left hf 0 a.halves hclosed rfl rfl rfl
      (Nat.le_add_left _ _) (Nat.le_refl _)
    exact ⟨cut, Nat.le_trans hcut (Nat.add_le_add_left (halves_le a) _), hbound⟩

/-- In every run the trials under way are paid for by the half open periods and the resets. -/
theorem run_spent (hvalid : s.invalid? = none) (deeds : List Custody.Deed) :
    (run s deeds).Spent (Custody.resets deeds) := by
  induction deeds using List.reverseRecOn with
  | nil =>
    have hhalf : (run s []).past.state ≠ .halfOpen := by simp [run, BreakerHistory.state]
    refine ⟨0, Nat.le_refl 0, ?_, ?_⟩ <;> rw [halves_of_ne hhalf]
    · exact Nat.zero_le _
    · simp [run, Custody.start, Custody.trialsOut, BreakerHistory.halfOpenings]
  | append_singleton deeds deed ih =>
    rw [run_concat, Custody.resets_concat]
    exact ih.act (run_faithful hvalid deeds) deed

/-! ### The bound is reached -/

/-- A half open circuit, the last permit of which is a trial of the present period. -/
structure Trying (a : Annals) (trials out openings : ℕ) : Prop where
  halfOpen : a.custody.breaker.state = .halfOpen
  trials_eq : a.custody.breaker.trials = trials
  trialsOut_eq : a.custody.trialsOut = out
  halfOpenings_eq : a.past.halfOpenings = openings
  latest : ∃ h, a.custody.held[0]? = some h ∧ h.permit.trial = true ∧ a.custody.IsCurrent h

variable {trials out openings : ℕ}

/-- An open circuit that has waited long enough becomes half open. -/
theorem Faithful.tries (hf : a.Faithful) (hopened : a.custody.breaker.state = .opened) :
    Trying ((a.act (.wait a.custody.breaker.settings.waitDuration.nanos)).act .acquire) 1
      (a.custody.trialsOut + 1) (a.past.halfOpenings + 1) := by
  have hwaited := (hf.waited_iff (hf.state_eq ▸ hopened)
    (a.custody.now + a.custody.breaker.settings.waitDuration.nanos)).mpr
    (Nat.le_sub_of_add_le (by have := hf.since_le; omega))
  constructor <;>
    simp [Annals.act, Custody.act, Custody.acquire, seen,
      CircuitBreaker.acquire_waited hopened hwaited, CircuitBreaker.moveTo, hopened,
      Custody.trialsOut, BreakerHistory.halfOpenings]

/-- A half open circuit admits another trial. -/
theorem Trying.next (h : Trying a trials out openings)
    (hroom : trials < a.custody.breaker.settings.permittedTrials) :
    Trying (a.act .acquire) (trials + 1) (out + 1) openings := by
  have htrial := @CircuitBreaker.acquire_trial a.custody.breaker a.custody.now h.halfOpen
    (h.trials_eq ▸ hroom)
  have hout := h.trialsOut_eq
  rw [Custody.trialsOut] at hout
  constructor <;>
    simp [Annals.act, Custody.act, Custody.acquire, seen, htrial, Custody.trialsOut,
      BreakerHistory.halfOpenings, CircuitBreaker.permit, h.halfOpen, h.trials_eq, hout,
      h.halfOpenings_eq]

/-- A half open circuit admits as many trials as are permitted. -/
theorem Trying.exists_full (h : Trying a trials out openings) (room : ℕ)
    (hroom : trials + room ≤ a.custody.breaker.settings.permittedTrials) :
    ∃ a', Leads 0 a a' ∧ Trying a' (trials + room) (out + room) openings := by
  induction room with
  | zero => exact ⟨a, .refl a, h⟩
  | succ room ih =>
    obtain ⟨a', hleads, htrying⟩ := ih (Nat.le_of_succ_le hroom)
    refine ⟨_, hleads.act .acquire, htrying.next ?_⟩
    rw [hleads.settings]
    omega

/-- A trial of the present period fails. -/
theorem Trying.fails (h : Trying a trials out openings) :
    (a.act (.settle 0 .fail)).custody.breaker.state = .opened ∧
      (a.act (.settle 0 .fail)).custody.trialsOut + 1 = out ∧
      (a.act (.settle 0 .fail)).past.halfOpenings = openings := by
  obtain ⟨p, hplace, htrial, hcurrent⟩ := h.latest
  have hfail := @CircuitBreaker.fail_trial a.custody.breaker p.permit a.custody.now hcurrent htrial
  have hout := Custody.trialsOut_eraseIdx hplace
  simp only [Annals.act, Custody.act, Custody.settle, seen, hplace, Settlement.apply, hfail]
  refine ⟨rfl, ?_, h.halfOpenings_eq⟩
  rw [h.trialsOut_eq, if_pos htrial] at hout
  exact hout.symm

/-- A half open circuit that is reset opens again after enough failures. -/
theorem Trying.exists_reopened (h : Trying a trials out openings)
    (hvalid : a.custody.breaker.settings.invalid? = none) :
    ∃ a', Leads 1 a a' ∧ a'.custody.breaker.state = .opened ∧ a'.custody.trialsOut = out ∧
      a'.past.halfOpenings = openings := by
  have hreset : Leads 1 a (a.act .reset) := (Leads.refl a).act .reset
  have hfresh : Failing (a.act .reset) (a.act .reset) 0 :=
    ⟨⟨.refl _, rfl, rfl⟩, rfl, rfl, rfl⟩
  obtain ⟨a', haside, hopened⟩ := hfresh.exists_opened hvalid
  refine ⟨a', hreset.trans haside.leads, hopened, ?_, ?_⟩
  · rw [Custody.trialsOut, haside.held_eq]
    exact h.trialsOut_eq
  · rw [haside.halfOpenings_eq]
    exact h.halfOpenings_eq

/-- A circuit that has opened becomes half open again, with as many trials more as are permitted. -/
theorem exists_trying (hf : a.Faithful) (hvalid : a.custody.breaker.settings.invalid? = none)
    (hopened : a.custody.breaker.state = .opened) :
    ∃ a', Leads 0 a a' ∧ Trying a' a.custody.breaker.settings.permittedTrials
      (a.custody.trialsOut + a.custody.breaker.settings.permittedTrials)
      (a.past.halfOpenings + 1) := by
  obtain ⟨-, -, -, hpermitted⟩ := CircuitBreaker.bounds_of_valid hvalid
  have htried : Leads 0 a
      ((a.act (.wait a.custody.breaker.settings.waitDuration.nanos)).act .acquire) :=
    ((Leads.refl a).act (.wait _)).act .acquire
  obtain ⟨a', hleads, htrying⟩ := (hf.tries hopened).exists_full
    (a.custody.breaker.settings.permittedTrials - 1) (by rw [htried.settings]; omega)
  refine ⟨a', htried.trans hleads, ?_⟩
  rwa [Nat.add_sub_cancel' hpermitted, Nat.add_assoc, Nat.add_sub_cancel' hpermitted] at htrying

/-- A new breaker can be open with no trial under way. -/
theorem exists_run_opened (hvalid : s.invalid? = none) :
    ∃ a, Leads 0 ⟨Custody.start s, []⟩ a ∧ a.custody.breaker.state = .opened ∧
      a.custody.trialsOut = 0 ∧ a.past.halfOpenings = 0 := by
  have hfresh : Failing ⟨Custody.start s, []⟩ ⟨Custody.start s, []⟩ 0 :=
    ⟨⟨.refl _, rfl, rfl⟩, rfl, rfl, rfl⟩
  obtain ⟨a, haside, hopened⟩ := hfresh.exists_opened hvalid
  refine ⟨a, haside.leads, hopened, ?_, haside.halfOpenings_eq⟩
  rw [Custody.trialsOut, haside.held_eq]
  rfl

/-- There is a run in which as many trials are under way as its half open periods and its resets
allow. -/
theorem exists_run_trying (hvalid : s.invalid? = none) (openings : ℕ) :
    ∀ resets ≤ openings, ∃ a' out, Leads resets ⟨Custody.start s, []⟩ a' ∧
      Trying a' s.permittedTrials out (openings + 1) ∧
      out + openings = s.permittedTrials * (openings + 1) + resets := by
  have hstart : Faithful ⟨Custody.start s, []⟩ := run_faithful hvalid []
  -- the next half open period, after the circuit has opened again
  have htry : ∀ {a : Annals} {resets : ℕ}, Leads resets ⟨Custody.start s, []⟩ a →
      a.custody.breaker.state = .opened → ∃ a', Leads resets ⟨Custody.start s, []⟩ a' ∧
        Trying a' s.permittedTrials (a.custody.trialsOut + s.permittedTrials)
          (a.past.halfOpenings + 1) := by
    intro a resets hleads hopened
    have hsettings : a.custody.breaker.settings = s := hleads.settings
    obtain ⟨a', hleads', htrying⟩ := exists_trying (hleads.faithful hstart hvalid)
      (by rwa [hsettings]) hopened
    rw [hsettings] at htrying
    exact ⟨a', hleads.trans hleads', htrying⟩
  induction openings with
  | zero =>
    intro resets hresets
    obtain rfl := Nat.le_zero.mp hresets
    obtain ⟨a, hleads, hopened, hout, hopenings⟩ := exists_run_opened hvalid
    obtain ⟨a', hleads', htrying⟩ := htry hleads hopened
    rw [hout, hopenings] at htrying
    exact ⟨a', _, hleads', htrying, by omega⟩
  | succ openings ih =>
    intro resets hresets
    rcases Nat.lt_or_ge openings resets with hlast | hle
    · obtain rfl : resets = openings + 1 := Nat.le_antisymm hresets hlast
      obtain ⟨a, out, hleads, htrying, hcount⟩ := ih openings (Nat.le_refl _)
      have hsettings : a.custody.breaker.settings = s := hleads.settings
      obtain ⟨a', hreopened, hopened, hout, hopenings⟩ :=
        htrying.exists_reopened (by rwa [hsettings])
      obtain ⟨a'', hleads', htrying'⟩ := htry (hleads.trans hreopened) hopened
      rw [hout, hopenings] at htrying'
      exact ⟨a'', _, hleads', htrying', by rw [Nat.mul_succ]; omega⟩
    · obtain ⟨a, out, hleads, htrying, hcount⟩ := ih resets hle
      obtain ⟨hopened, hout, hopenings⟩ := htrying.fails
      obtain ⟨a', hleads', htrying'⟩ := htry (hleads.act (.settle 0 .fail)) hopened
      rw [hopenings] at htrying'
      exact ⟨a', _, hleads', htrying', by rw [Nat.mul_succ]; omega⟩

/-! ### How many trials there are -/

/-- The trials of the present period are paid for by that period. -/
theorem Faithful.trials_le (hf : a.Faithful) :
    a.custody.breaker.trials ≤ a.custody.breaker.settings.permittedTrials * a.halves := by
  by_cases hhalf : a.past.state = .halfOpen
  · rw [halves_of_halfOpen hhalf, Nat.mul_one]
    exact hf.sound.trials_le
  · rw [hf.sound.trials_eq_zero (hf.state_eq ▸ hhalf)]
    exact Nat.zero_le _

/-- The trials under way are bounded by the half open periods alone, and more tightly by those that
ended without a reset. -/
theorem Spent.trialsOut_le {resets : ℕ} (hspent : a.Spent resets) (hf : a.Faithful) :
    a.custody.trialsOut ≤ a.custody.breaker.settings.permittedTrials * a.past.halfOpenings ∧
      a.custody.trialsOut + a.past.halfOpenings ≤
        a.custody.breaker.settings.permittedTrials * a.past.halfOpenings + a.halves + resets := by
  obtain ⟨cut, hcut, hover, hcost⟩ := hspent
  have htrials := hf.trials_le
  constructor <;> omega

/-- In every run of a breaker with valid settings the trials of the present period are at most as
many as are permitted, and all trials under way at most that many for each half open period so far.
While the breaker is half open, each earlier such period has given one back unless a reset ended it.
Nothing better holds: for every number of half open periods, and every number of resets between
them, there is a run in which that many trials are under way. So what the settings permit bounds the
trials under way in the first half open period only, unless a single trial is permitted and nobody
resets the circuit. -/
theorem trialsOut_bounds (s : BreakerSettings) (hvalid : s.invalid? = none) :
    (∀ deeds, let a := run s deeds
      a.custody.trialsHeld ≤ s.permittedTrials ∧
        a.custody.trialsOut ≤ s.permittedTrials * a.past.halfOpenings ∧
        (a.past.state = .halfOpen →
          a.custody.trialsOut + a.past.halfOpenings ≤
            s.permittedTrials * a.past.halfOpenings + 1 + Custody.resets deeds)) ∧
      (∀ resets openings, resets ≤ openings → ∃ deeds, let a := run s deeds
        Custody.resets deeds = resets ∧ a.past.state = .halfOpen ∧
          a.past.halfOpenings = openings + 1 ∧
          a.custody.trialsOut + openings = s.permittedTrials * (openings + 1) + resets) ∧
      ((∀ deeds, Custody.resets deeds = 0 → (run s deeds).past.state = .halfOpen →
          (run s deeds).custody.trialsOut ≤ s.permittedTrials) ↔ s.permittedTrials = 1) := by
  have hsettings : ∀ deeds, (run s deeds).custody.breaker.settings = s := fun deeds ↦ by
    rw [run_custody]
    exact (Custody.run_sound hvalid deeds).2
  have hbound : ∀ deeds, let a := run s deeds
      a.custody.trialsHeld ≤ s.permittedTrials ∧
        a.custody.trialsOut ≤ s.permittedTrials * a.past.halfOpenings ∧
        (a.past.state = .halfOpen →
          a.custody.trialsOut + a.past.halfOpenings ≤
            s.permittedTrials * a.past.halfOpenings + 1 + Custody.resets deeds) := by
    intro deeds a
    have hf : a.Faithful := run_faithful hvalid deeds
    obtain ⟨hall, hhalf⟩ := (run_spent hvalid deeds).trialsOut_le hf
    rw [hsettings] at hall hhalf
    refine ⟨?_, hall, fun hstate ↦ ?_⟩
    · rw [← hf.sound.trials_eq, ← hsettings deeds]
      exact hf.sound.trials_le
    · rwa [halves_of_halfOpen hstate] at hhalf
  have hsharp : ∀ resets openings, resets ≤ openings → ∃ deeds, let a := run s deeds
      Custody.resets deeds = resets ∧ a.past.state = .halfOpen ∧
        a.past.halfOpenings = openings + 1 ∧
        a.custody.trialsOut + openings = s.permittedTrials * (openings + 1) + resets := by
    intro resets openings hle
    obtain ⟨a, out, ⟨deeds, hrun, hresets⟩, htrying, hcount⟩ :=
      exists_run_trying hvalid openings resets hle
    have hrun : run s deeds = a := hrun
    have hf : a.Faithful := hrun ▸ run_faithful hvalid deeds
    refine ⟨deeds, hresets, ?_⟩
    rw [hrun, htrying.trialsOut_eq]
    exact ⟨hf.state_eq.symm.trans htrying.halfOpen, htrying.halfOpenings_eq, hcount⟩
  obtain ⟨-, -, -, hpermitted⟩ := CircuitBreaker.bounds_of_valid hvalid
  refine ⟨hbound, hsharp, fun hle ↦ ?_, fun hone deeds hresets hstate ↦ ?_⟩
  · -- the second half open period holds the trials of the first but one
    obtain ⟨deeds, hresets, hstate, -, hcount⟩ := hsharp 0 1 (Nat.zero_le 1)
    have hout := hle deeds hresets hstate
    omega
  · obtain ⟨-, -, hhalf⟩ := hbound deeds
    have hout := hhalf hstate
    rw [hone, hresets] at hout
    omega

/-- With two trials permitted, three resets between four half open periods leave eight trials under
way. -/
theorem trialsOut_bounds_two :
    BreakerSettings.invalid? { permittedTrials := 2 } = none ∧
      ∃ deeds, let a := run { permittedTrials := 2 } deeds
        Custody.resets deeds = 3 ∧ a.past.state = .halfOpen ∧ a.past.halfOpenings = 4 ∧
          a.custody.trialsOut = 8 := by
  have hvalid : BreakerSettings.invalid? { permittedTrials := 2 } = none := by decide
  obtain ⟨deeds, hresets, hstate, hopenings, hout⟩ :=
    (trialsOut_bounds _ hvalid).2.1 3 3 (Nat.le_refl 3)
  exact ⟨hvalid, deeds, hresets, hstate, hopenings, Nat.add_right_cancel hout⟩

/-- Two trials are permitted and three are under way: the first of them failed, its sibling goes on,
and the circuit is half open anew. -/
theorem trialsOut_exceeds_permitted :
    BreakerSettings.invalid? { failureThreshold := 1, waitDuration := .zero, permittedTrials := 2 }
        = none ∧
      let a := run { failureThreshold := 1, waitDuration := .zero, permittedTrials := 2 }
        [.acquire, .settle 0 .fail, .acquire, .acquire, .settle 1 .fail, .acquire, .acquire]
      a.custody.breaker.state = .halfOpen ∧ a.custody.breaker.trials = 2 ∧
        a.custody.trialsOut = 3 :=
  ⟨by decide, by decide, by decide, by decide⟩

end Annals

end Courier

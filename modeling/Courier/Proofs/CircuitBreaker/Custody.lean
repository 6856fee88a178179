import Courier.Proofs.CircuitBreaker.Operations
import Mathlib.Data.List.Induction
import Mathlib.Data.List.Perm.Basic

/-!
# A circuit breaker and the permits that are held

A breaker is used by any number of callers at once. `Custody` is a breaker with the permits that
were granted and are not settled yet, and `Deed` is what can happen next: someone asks for a permit,
one of those held is settled or dropped, the circuit is reset, or time passes. A run is any list of
deeds, so it is any interleaving of the callers.

`Custody.Sound` is the invariant. Settling looks at the period of a permit and at whether it is a
trial, never at the state of the breaker; what makes this right is that a permit of the present
period is a trial exactly if the breaker is half open (`Sound.trial_iff`) and that there is none
while it is open (`Sound.not_opened`). `Sound.act` is the step, `run_sound` the run, and
`run_representation` adds that nothing is ever taken from a count of zero.
-/

set_option autoImplicit false
set_option relaxedAutoImplicit false

namespace Courier

open Rehearsal (Settlement)

/-- A permit that is held, with the number of its grant. -/
structure HeldPermit where
  ticket : ℕ
  permit : CallPermit
  deriving DecidableEq, Repr

/-- A breaker and the permits that are held, the latest first. -/
structure Custody where
  breaker : CircuitBreaker
  now : ℕ := 0
  held : List HeldPermit := []
  /-- The number of permits granted so far. -/
  granted : ℕ := 0

namespace Custody

/-- What can happen to a breaker. A permit is named by its place among those that are held. -/
inductive Deed where
  | acquire
  | settle (place : ℕ) (how : Settlement)
  | reset
  | wait (time : ℕ)

/-- A new breaker. -/
def start (s : BreakerSettings) : Custody := { breaker := { settings := s } }

/-- Someone asks for a permit and holds it if it is granted. -/
def acquire (c : Custody) : Custody :=
  match c.breaker.acquire c.now with
  | (none, breaker) => { c with breaker }
  | (some permit, breaker) =>
    { c with breaker, held := ⟨c.granted, permit⟩ :: c.held, granted := c.granted + 1 }

/-- A permit that is held is settled. -/
def settle (c : Custody) (place : ℕ) (how : Settlement) : Custody :=
  match c.held[place]? with
  | none => c
  | some h =>
    { c with
      breaker := (how.apply c.breaker h.permit c.now).2
      held := c.held.eraseIdx place }

/-- Does one deed. -/
def act (c : Custody) : Deed → Custody
  | .acquire => c.acquire
  | .settle place how => c.settle place how
  | .reset => { c with breaker := c.breaker.reset c.now }
  | .wait time => { c with now := c.now + time }

/-- Does some deeds one after the other on a new breaker. -/
def run (s : BreakerSettings) (deeds : List Deed) : Custody := deeds.foldl act (start s)

/-- A permit is of the present period. -/
abbrev IsCurrent (c : Custody) (h : HeldPermit) : Prop := h.permit.period = c.breaker.period

/-- The trials of the present period that are held. -/
def trialsHeld (c : Custody) : ℕ :=
  c.held.countP fun h ↦ h.permit.trial && decide (c.IsCurrent h)

/-- The counts of a breaker agree with its window and with the permits that are held. -/
structure Sound (c : Custody) : Prop where
  failures_eq : c.breaker.failures = c.breaker.window.count true
  window_length_le : c.breaker.window.length ≤ c.breaker.settings.windowSize
  window_eq_nil : c.breaker.state ≠ .closed → c.breaker.window = []
  openedAt_isSome_iff : c.breaker.openedAt.isSome ↔ c.breaker.state = .opened
  trials_eq : c.breaker.trials = c.trialsHeld
  trials_le : c.breaker.trials ≤ c.breaker.settings.permittedTrials
  trials_eq_zero : c.breaker.state ≠ .halfOpen → c.breaker.trials = 0
  successes_lt : c.breaker.successes < c.breaker.settings.successThreshold
  successes_eq_zero : c.breaker.state ≠ .halfOpen → c.breaker.successes = 0
  trial_iff : ∀ h ∈ c.held, c.IsCurrent h → (h.permit.trial ↔ c.breaker.state = .halfOpen)
  not_opened : ∀ h ∈ c.held, c.IsCurrent h → c.breaker.state ≠ .opened
  period_le : ∀ h ∈ c.held, h.permit.period ≤ c.breaker.period

/-! ### Permits of earlier periods -/

variable {c : Custody} {s : BreakerSettings}

/-- A transition leaves no permit of the present period. -/
theorem not_isCurrent_moveTo (hs : c.Sound) (held : List HeldPermit)
    (hheld : ∀ h ∈ held, h ∈ c.held) (target : CircuitState) (now : ℕ) :
    ∀ h ∈ held, ¬ h.permit.period = (c.breaker.moveTo target now).period := by
  intro h hmem hperiod
  have hle := hs.period_le h (hheld h hmem)
  simp only [CircuitBreaker.moveTo] at hperiod
  omega

/-- A transition keeps the counts right, whatever permits are still held. -/
theorem Sound.moveTo (hs : c.Sound) (hvalid : c.breaker.settings.invalid? = none)
    (held : List HeldPermit) (hheld : ∀ h ∈ held, h ∈ c.held) (target : CircuitState) (now : ℕ) :
    Sound { c with breaker := c.breaker.moveTo target now, held := held } := by
  have hstale := not_isCurrent_moveTo hs held hheld target now
  obtain ⟨-, hsuccess, -, -⟩ := CircuitBreaker.bounds_of_valid hvalid
  have hnone : trialsHeld { c with breaker := c.breaker.moveTo target now, held := held } = 0 := by
    refine List.countP_eq_zero.mpr fun h hmem ↦ ?_
    simp [hstale h hmem]
  exact
    { failures_eq := rfl
      window_length_le := Nat.zero_le _
      window_eq_nil := fun _ ↦ rfl
      openedAt_isSome_iff := by
        by_cases h : target = .opened <;> simp [CircuitBreaker.moveTo, h]
      trials_eq := hnone.symm
      trials_le := Nat.zero_le _
      trials_eq_zero := fun _ ↦ rfl
      successes_lt := hsuccess
      successes_eq_zero := fun _ ↦ rfl
      trial_iff := fun h hmem hcurrent ↦ absurd hcurrent (hstale h hmem)
      not_opened := fun h hmem hcurrent ↦ absurd hcurrent (hstale h hmem)
      period_le := fun h hmem ↦ by
        have hle := hs.period_le h (hheld h hmem)
        simp only [CircuitBreaker.moveTo]
        omega }

/-- A new breaker is sound. -/
theorem start_sound (hvalid : s.invalid? = none) : (start s).Sound := by
  obtain ⟨-, hsuccess, -, -⟩ := CircuitBreaker.bounds_of_valid hvalid
  constructor <;> simp [start, trialsHeld]
  exact hsuccess

/-! ### One deed -/

/-- A permit that is granted in the present period is a trial of it, or none is under way. -/
theorem trialsHeld_cons (b : CircuitBreaker) (h : HeldPermit) (held : List HeldPermit)
    (now granted : ℕ) (hcurrent : h.permit.period = b.period) :
    trialsHeld ⟨b, now, h :: held, granted⟩ =
      trialsHeld ⟨b, now, held, granted⟩ + if h.permit.trial then 1 else 0 := by
  simp [trialsHeld, IsCurrent, List.countP_cons, hcurrent]

/-- Taking a permit out of those held takes it out of the trials that are counted. -/
theorem trialsHeld_eraseIdx {place : ℕ} {h : HeldPermit} (hplace : c.held[place]? = some h) :
    c.trialsHeld = trialsHeld { c with held := c.held.eraseIdx place } +
      if h.permit.trial ∧ c.IsCurrent h then 1 else 0 := by
  obtain ⟨hlt, rfl⟩ := List.getElem?_eq_some_iff.mp hplace
  have hperm := List.getElem_cons_eraseIdx_perm hlt
  rw [trialsHeld, ← hperm.countP_eq, List.countP_cons]
  simp [trialsHeld]

theorem mem_of_mem_eraseIdx {place : ℕ} : ∀ h ∈ c.held.eraseIdx place, h ∈ c.held :=
  fun _ hmem ↦ List.mem_of_mem_eraseIdx hmem

/-- A permit of the present period is granted, and counted if it is a trial. -/
theorem Sound.grant (hs : c.Sound) (trial : Bool) (trials : ℕ)
    (htrial : trial ↔ c.breaker.state = .halfOpen) (hopened : c.breaker.state ≠ .opened)
    (htrials : trials = c.breaker.trials + if trial then 1 else 0)
    (hpermitted : trials ≤ c.breaker.settings.permittedTrials) (ticket granted : ℕ) :
    Sound ⟨{ c.breaker with trials }, c.now, ⟨ticket, ⟨c.breaker.period, trial⟩⟩ :: c.held,
      granted⟩ := by
  refine { hs with
    trials_eq := ?_, trials_le := hpermitted, trials_eq_zero := ?_, trial_iff := ?_,
    not_opened := fun _ _ _ ↦ hopened, period_le := ?_ }
  · have hheld := trialsHeld_cons { c.breaker with trials } ⟨ticket, ⟨c.breaker.period, trial⟩⟩
      c.held c.now granted rfl
    rw [hs.trials_eq] at htrials
    exact htrials.trans hheld.symm
  · intro hstate
    change trials = 0
    rw [htrials, if_neg (mt htrial.mp hstate)]
    exact hs.trials_eq_zero hstate
  · intro h hmem hcurrent
    rcases List.mem_cons.mp hmem with rfl | hmem
    · exact htrial
    · exact hs.trial_iff h hmem hcurrent
  · intro h hmem
    rcases List.mem_cons.mp hmem with rfl | hmem
    · exact Nat.le_refl _
    · exact hs.period_le h hmem

/-- Asking for a permit keeps the counts right. -/
theorem Sound.acquire (hs : c.Sound) (hvalid : c.breaker.settings.invalid? = none) :
    c.acquire.Sound := by
  obtain ⟨-, -, -, hpermitted⟩ := CircuitBreaker.bounds_of_valid hvalid
  cases hstate : c.breaker.state with
  | closed =>
    rw [Custody.acquire, CircuitBreaker.acquire_closed hstate]
    exact hs.grant false c.breaker.trials (by simp [hstate]) (by simp [hstate]) rfl hs.trials_le
      _ _
  | opened =>
    cases hwaited : c.breaker.waited c.now with
    | false =>
      rw [Custody.acquire, CircuitBreaker.acquire_waiting hstate hwaited]
      exact hs
    | true =>
      rw [Custody.acquire, CircuitBreaker.acquire_waited hstate hwaited]
      have hmoved := hs.moveTo hvalid c.held (fun _ hmem ↦ hmem) .halfOpen c.now
      exact hmoved.grant true 1 (by simp [CircuitBreaker.moveTo])
        (by simp [CircuitBreaker.moveTo]) rfl hpermitted _ _
  | halfOpen =>
    by_cases hroom : c.breaker.trials < c.breaker.settings.permittedTrials
    · rw [Custody.acquire, CircuitBreaker.acquire_trial hstate hroom]
      exact hs.grant true (c.breaker.trials + 1) (by simp [hstate]) (by simp [hstate]) rfl hroom
        _ _
    · rw [Custody.acquire, CircuitBreaker.acquire_full hstate (Nat.not_lt.mp hroom)]
      exact hs

/-- A permit that is no trial of the present period may go without notice. -/
theorem Sound.eraseIdx (hs : c.Sound) {place : ℕ} {h : HeldPermit}
    (hplace : c.held[place]? = some h) (hcall : ¬ (h.permit.trial ∧ c.IsCurrent h)) :
    Sound { c with held := c.held.eraseIdx place } := by
  have htrials := trialsHeld_eraseIdx hplace
  rw [if_neg hcall, Nat.add_zero] at htrials
  exact { hs with
    trials_eq := hs.trials_eq.trans htrials
    trial_iff := fun h hmem ↦ hs.trial_iff h (mem_of_mem_eraseIdx h hmem)
    not_opened := fun h hmem ↦ hs.not_opened h (mem_of_mem_eraseIdx h hmem)
    period_le := fun h hmem ↦ hs.period_le h (mem_of_mem_eraseIdx h hmem) }

/-- A trial of the present period gives its place back. The count it is taken from is not zero. -/
theorem Sound.release (hs : c.Sound) {place : ℕ} {h : HeldPermit}
    (hplace : c.held[place]? = some h) (htrial : h.permit.trial) (hcurrent : c.IsCurrent h)
    (successes : ℕ) (hsuccesses : successes < c.breaker.settings.successThreshold) :
    Sound { c with
      breaker := { c.breaker with trials := c.breaker.trials - 1, successes }
      held := c.held.eraseIdx place } := by
  have hmem : h ∈ c.held := List.mem_of_getElem? hplace
  have hhalf : c.breaker.state = .halfOpen := (hs.trial_iff h hmem hcurrent).mp htrial
  have htrials := trialsHeld_eraseIdx hplace
  rw [if_pos ⟨htrial, hcurrent⟩, ← hs.trials_eq] at htrials
  exact { hs with
    trials_eq := by
      rw [htrials, Nat.add_sub_cancel]
      rfl
    trials_le := Nat.le_trans (Nat.sub_le _ _) hs.trials_le
    trials_eq_zero := fun hne ↦ absurd hhalf hne
    successes_lt := hsuccesses
    successes_eq_zero := fun hne ↦ absurd hhalf hne
    trial_iff := fun h hmem ↦ hs.trial_iff h (mem_of_mem_eraseIdx h hmem)
    not_opened := fun h hmem ↦ hs.not_opened h (mem_of_mem_eraseIdx h hmem)
    period_le := fun h hmem ↦ hs.period_le h (mem_of_mem_eraseIdx h hmem) }

/-- A closed breaker takes an outcome into its window. -/
theorem Sound.push (hs : c.Sound) (hvalid : c.breaker.settings.invalid? = none)
    (hclosed : c.breaker.state = .closed) (failed : Bool) :
    Sound { c with breaker := c.breaker.push failed } := by
  obtain ⟨-, -, hwindow, -⟩ := CircuitBreaker.bounds_of_valid hvalid
  exact { hs with
    failures_eq := CircuitBreaker.push_failures failed hs.failures_eq
    window_length_le := CircuitBreaker.push_window_length failed hwindow
    window_eq_nil := fun hne ↦ absurd hclosed hne }

/-- A call of the present period that is no trial finds the breaker closed. -/
theorem Sound.closed_of_call (hs : c.Sound) {h : HeldPermit} (hmem : h ∈ c.held)
    (hcurrent : c.IsCurrent h) (hcall : h.permit.trial = false) : c.breaker.state = .closed := by
  have htrial := hs.trial_iff h hmem hcurrent
  have hopened := hs.not_opened h hmem hcurrent
  cases hstate : c.breaker.state with
  | closed => rfl
  | opened => exact absurd hstate hopened
  | halfOpen => simp [hcall, hstate] at htrial

/-- Settling a permit keeps the counts right. -/
theorem Sound.settle (hs : c.Sound) (hvalid : c.breaker.settings.invalid? = none) (place : ℕ)
    (how : Settlement) : (c.settle place how).Sound := by
  cases hplace : c.held[place]? with
  | none => simpa only [Custody.settle, hplace] using hs
  | some h =>
    simp only [Custody.settle, hplace]
    have hmem : h ∈ c.held := List.mem_of_getElem? hplace
    by_cases hcurrent : c.IsCurrent h
    · cases htrial : h.permit.trial with
      | true =>
        cases how with
        | succeed =>
          rw [Settlement.apply, CircuitBreaker.succeed_trial hcurrent htrial]
          split_ifs with hlast
          · exact hs.moveTo hvalid _ mem_of_mem_eraseIdx .closed c.now
          · exact hs.release hplace htrial hcurrent _ (Nat.not_le.mp hlast)
        | fail =>
          rw [Settlement.apply, CircuitBreaker.fail_trial hcurrent htrial]
          exact hs.moveTo hvalid _ mem_of_mem_eraseIdx .opened c.now
        | drop =>
          rw [Settlement.apply, CircuitBreaker.drop_trial hcurrent htrial]
          exact hs.release hplace htrial hcurrent _ hs.successes_lt
      | false =>
        -- it is the window that takes the outcome
        have hclosed := hs.closed_of_call hmem hcurrent htrial
        have hkept := hs.eraseIdx hplace (by simp [htrial])
        cases how with
        | succeed =>
          rw [Settlement.apply, CircuitBreaker.succeed_call hcurrent htrial]
          exact hkept.push hvalid hclosed false
        | fail =>
          rw [Settlement.apply, CircuitBreaker.fail_call hcurrent htrial]
          have hpushed := hkept.push hvalid hclosed true
          split_ifs with htripped
          · exact hpushed.moveTo hvalid _ (fun _ hmem ↦ hmem) .opened c.now
          · exact hpushed
        | drop =>
          rw [Settlement.apply, CircuitBreaker.drop_call htrial]
          exact hkept
    · rw [CircuitBreaker.apply_stale how hcurrent]
      exact hs.eraseIdx hplace fun hboth ↦ hcurrent hboth.2

/-- Every deed keeps the counts right. -/
theorem Sound.act (hs : c.Sound) (hvalid : c.breaker.settings.invalid? = none) (deed : Deed) :
    (c.act deed).Sound := by
  cases deed with
  | acquire => exact hs.acquire hvalid
  | settle place how => exact hs.settle hvalid place how
  | reset => exact hs.moveTo hvalid c.held (fun _ hmem ↦ hmem) .closed c.now
  | wait time => exact { hs with }

/-! ### A run -/

theorem run_concat (s : BreakerSettings) (deeds : List Deed) (deed : Deed) :
    run s (deeds ++ [deed]) = (run s deeds).act deed :=
  List.foldl_concat ..

@[simp] theorem act_settings (c : Custody) (deed : Deed) :
    (c.act deed).breaker.settings = c.breaker.settings := by
  cases deed with
  | acquire =>
    have hsettings := @CircuitBreaker.acquire_settings c.breaker c.now
    simp only [act, acquire]
    split <;> simp_all
  | settle place how =>
    simp only [act, settle]
    split <;> simp
  | reset => rfl
  | wait time => rfl

/-- Every run of a breaker with valid settings keeps its counts right, and its settings. -/
theorem run_sound (hvalid : s.invalid? = none) (deeds : List Deed) :
    (run s deeds).Sound ∧ (run s deeds).breaker.settings = s := by
  induction deeds using List.reverseRecOn with
  | nil => exact ⟨start_sound hvalid, rfl⟩
  | append_singleton deeds deed ih =>
    obtain ⟨hsound, hsettings⟩ := ih
    rw [run_concat]
    exact ⟨hsound.act (by rwa [hsettings]) deed, (act_settings _ deed).trans hsettings⟩

/-- After any deeds the counts of a breaker with valid settings agree with its window and with the
permits that are held. So the failures are never counted down below zero when the window makes room,
a trial that is settled or dropped is always among those that are counted, and a permit of an
earlier period is settled or dropped without any effect. -/
theorem run_representation (s : BreakerSettings) (hvalid : s.invalid? = none)
    (deeds : List Deed) :
    (run s deeds).Sound ∧ (run s deeds).breaker.settings = s ∧
      CircuitBreaker.makeRoom? s.windowSize (run s deeds).breaker.window
          (run s deeds).breaker.failures =
        some (CircuitBreaker.makeRoom s.windowSize (run s deeds).breaker.window
          (run s deeds).breaker.failures) ∧
      (∀ h ∈ (run s deeds).held, h.permit.trial → (run s deeds).IsCurrent h →
        0 < (run s deeds).breaker.trials) ∧
      ∀ h ∈ (run s deeds).held, ¬ (run s deeds).IsCurrent h → ∀ how : Settlement,
        how.apply (run s deeds).breaker h.permit (run s deeds).now =
          (none, (run s deeds).breaker) := by
  obtain ⟨hsound, hsettings⟩ := run_sound hvalid deeds
  refine ⟨hsound, hsettings, ?_, ?_, ?_⟩
  · rw [hsound.failures_eq]
    exact CircuitBreaker.makeRoom?_eq _ _
  · intro h hmem htrial hcurrent
    rw [hsound.trials_eq]
    exact List.countP_pos_iff.mpr ⟨h, hmem, by simpa [htrial] using hcurrent⟩
  · intro h _ hstale how
    exact CircuitBreaker.apply_stale how hstale

/-- A breaker that opens at the first failure and waits for nothing, with a call of its first period
and a trial of its third under way. -/
theorem run_representation_halfOpen :
    BreakerSettings.invalid? { failureThreshold := 1, waitDuration := .zero } = none ∧
      let c := run { failureThreshold := 1, waitDuration := .zero }
        [.acquire, .acquire, .settle 0 .fail, .acquire]
      c.Sound ∧ c.breaker.state = .halfOpen ∧ c.breaker.trials = 1 ∧ c.held.length = 2 := by
  have hvalid :
      BreakerSettings.invalid? { failureThreshold := 1, waitDuration := .zero } = none := by
    decide
  exact ⟨hvalid, (run_representation _ hvalid _).1, by decide, by decide, by decide⟩

end Custody

end Courier

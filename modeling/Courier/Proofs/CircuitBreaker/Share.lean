import Courier.Proofs.CircuitBreaker.Windows

/-!
# Settings that leave the share of failures out of account

The share of failures is to count once enough outcomes of a period are known. How many are known is
read off the window, though, which holds no more outcomes than it is long. So if more outcomes are
called for than the window can hold, the share never counts, however many outcomes there were: any
other threshold would give the same history (`Annals.run_retuned`). Valid settings may be of this
kind.

`Annals.HeedsShare` is what the share is there for, said of the outcomes of the period and not of
the window. It holds in all runs exactly if the settings are `BreakerSettings.Attentive`: as many
outcomes as are called for fit into the window, or the share that a full window reaches without
enough failures to open the circuit is below the threshold anyway.
-/

set_option autoImplicit false
set_option relaxedAutoImplicit false

namespace Courier

open Rehearsal (Settlement)
open CircuitBreaker (failureRate)

/-- The outcomes of a period, the latest first, are as many as are called for, and among the latest
of them, as many as the window is long, the share of failures reaches the threshold. -/
def BreakerHistory.ReachesShare (s : BreakerSettings) (outcomes : List Bool) : Prop :=
  s.minimumCalls ≤ outcomes.length ∧
    s.failureRateThreshold ≤
      failureRate ((outcomes.take s.windowSize).count true) (min outcomes.length s.windowSize)

instance (s : BreakerSettings) (outcomes : List Bool) :
    Decidable (BreakerHistory.ReachesShare s outcomes) :=
  inferInstanceAs (Decidable (_ ∧ _))

/-- While the circuit is closed, every failure of a call of the period with which the share of
failures is reached opens it. -/
def Annals.HeedsShare (a : Annals) : Prop :=
  a.past.state = .closed →
    BreakerHistory.ReachesShare a.custody.breaker.settings (true :: a.past.outcomes) →
    ∀ place h, a.custody.held[place]? = some h → h.ticket ∈ a.past.grants →
      (a.act (.settle place .fail)).custody.breaker.state = .opened

/-- If the window is too short for the outcomes called for, its share of failures stays below the
threshold as long as their number does not open the circuit. -/
def BreakerSettings.Attentive (s : BreakerSettings) : Prop :=
  s.windowSize < s.minimumCalls →
    failureRate (s.failureThreshold - 1) s.windowSize < s.failureRateThreshold

instance (s : BreakerSettings) : Decidable s.Attentive :=
  inferInstanceAs (Decidable (_ → _))

/-! ### Attentive settings -/

namespace BreakerSettings

variable {s : BreakerSettings} {outcomes : List Bool}

/-- With attentive settings the latest outcomes open the circuit where the share is reached. -/
theorem Attentive.trips (h : s.Attentive) (hvalid : s.invalid? = none)
    (hsize : s.windowSize < 2 ^ 32) (hshare : BreakerHistory.ReachesShare s outcomes) :
    BreakerHistory.Trips s (outcomes.take s.windowSize) := by
  obtain ⟨hcalls, hrate⟩ := hshare
  rw [BreakerHistory.Trips, List.length_take, Nat.min_comm s.windowSize]
  rcases Nat.lt_or_ge s.windowSize s.minimumCalls with hshort | hroom
  · -- the window is full
    rw [Nat.min_eq_right (by omega)] at hrate ⊢
    by_contra hfew
    have hfits := CircuitBreaker.failureThreshold_le hvalid
    have hcount : (outcomes.take s.windowSize).count true ≤ s.failureThreshold - 1 := by omega
    have hbelow : failureRate ((outcomes.take s.windowSize).count true) s.windowSize <
        s.failureRateThreshold :=
      CircuitBreaker.failureRate_lt_of_mul_le (Nat.mul_le_mul_right _ hcount) (by omega) (by omega)
        (by omega) (by omega) (h hshort)
    exact float_not_le_of_lt hbelow hrate
  · exact .inr ⟨Nat.le_min.mpr ⟨hcalls, hroom⟩, hrate⟩

/-- Settings that are not attentive: the window is too short, and yet its share of failures can
reach the threshold with a failure that does not open the circuit. -/
theorem of_not_attentive (hvalid : s.invalid? = none) (hsize : s.windowSize < 2 ^ 32)
    (h : ¬ s.Attentive) :
    s.windowSize < s.minimumCalls ∧ 2 ≤ s.failureThreshold ∧
      s.failureRateThreshold ≤ failureRate (s.failureThreshold - 1) s.windowSize := by
  obtain ⟨hshort, habove⟩ : s.windowSize < s.minimumCalls ∧
      ¬ failureRate (s.failureThreshold - 1) s.windowSize < s.failureRateThreshold := by
    simpa [Attentive] using h
  have hpositive := rateThreshold_pos hvalid
  have hfits := CircuitBreaker.failureThreshold_le hvalid
  obtain ⟨hsome, -, -, -⟩ := CircuitBreaker.bounds_of_valid hvalid
  refine ⟨hshort, Nat.lt_of_le_of_ne hsome fun hone ↦ habove ?_, ?_⟩
  · -- the share without failures is below every threshold
    have hnone : failureRate 0 0 < s.failureRateThreshold := hpositive
    rw [← hone]
    exact CircuitBreaker.failureRate_lt_of_mul_le (by omega) (by decide) (by decide) (by omega)
      (by decide) hnone
  · by_contra hbelow
    exact habove (CircuitBreaker.failureRate_lt_of_not_le (by omega) (by omega) hpositive hbelow)

/-- Where the window is too short for the outcomes called for, only the number of failures opens the
circuit. -/
theorem trips_iff_of_short (hshort : s.windowSize < s.minimumCalls) (outcomes : List Bool) :
    BreakerHistory.Trips s (outcomes.take s.windowSize) ↔
      s.failureThreshold ≤ (outcomes.take s.windowSize).count true := by
  rw [BreakerHistory.Trips, or_iff_left]
  intro hcalls
  have hlength := List.length_take_le s.windowSize outcomes
  omega

end BreakerSettings

namespace Annals

variable {a : Annals} {s : BreakerSettings}

/-- A failure of a call of the period opens a closed circuit exactly if the latest outcomes do. -/
theorem Faithful.state_settle_fail (hf : a.Faithful)
    (hvalid : a.custody.breaker.settings.invalid? = none) (hclosed : a.past.state = .closed)
    {place : ℕ} {h : HeldPermit} (hplace : a.custody.held[place]? = some h)
    (hgrant : h.ticket ∈ a.past.grants) :
    (a.act (.settle place .fail)).custody.breaker.state =
      if BreakerHistory.Trips a.custody.breaker.settings
          ((true :: a.past.outcomes).take a.custody.breaker.settings.windowSize) then .opened
      else .closed := by
  have hfail := hf.fail_eq hvalid (List.mem_of_getElem? hplace) hgrant a.custody.now
  have hopens : a.past.Opens a.custody.breaker.settings ↔
      BreakerHistory.Trips a.custody.breaker.settings
        ((true :: a.past.outcomes).take a.custody.breaker.settings.windowSize) := by
    simp [BreakerHistory.Opens, hclosed]
  simp only [Annals.act, Custody.act, Custody.settle, hplace]
  rw [CircuitBreaker.apply_state, Settlement.apply, hfail, hf.state_eq, hclosed]
  by_cases htrips : a.past.Opens a.custody.breaker.settings
  · rw [if_pos htrips, if_pos (hopens.mp htrips)]
    rfl
  · rw [if_neg htrips, if_neg (mt hopens.mpr htrips)]
    rfl

/-- With attentive settings the share of failures is heeded. -/
theorem Faithful.heedsShare (hf : a.Faithful)
    (hvalid : a.custody.breaker.settings.invalid? = none)
    (hsize : a.custody.breaker.settings.windowSize < 2 ^ 32)
    (hattentive : a.custody.breaker.settings.Attentive) : a.HeedsShare :=
  fun hclosed hshare _ _ hplace hgrant ↦ by
    rw [hf.state_settle_fail hvalid hclosed hplace hgrant,
      if_pos (hattentive.trips hvalid hsize hshare)]

theorem run_settings (s : BreakerSettings) (deeds : List Custody.Deed) :
    (run s deeds).custody.breaker.settings = s :=
  Leads.settings (a := ⟨Custody.start s, []⟩) ⟨deeds, rfl, rfl⟩

/-! ### Settings that are not attentive -/

/-- One failure more opens a closed circuit exactly if the latest outcomes do. -/
theorem Faithful.tripped_push_iff (hf : a.Faithful)
    (hvalid : a.custody.breaker.settings.invalid? = none)
    (hclosed : a.custody.breaker.state = .closed) :
    (a.custody.breaker.push true).tripped = true ↔
      BreakerHistory.Trips a.custody.breaker.settings
        ((true :: a.past.outcomes).take a.custody.breaker.settings.windowSize) := by
  obtain ⟨-, -, hwindow, -⟩ := CircuitBreaker.bounds_of_valid hvalid
  refine tripped_iff (CircuitBreaker.push_failures true hf.sound.failures_eq) ?_
  rw [CircuitBreaker.push_window, hf.window_eq (hf.state_eq ▸ hclosed), window_push _ _ hwindow]

/-- A circuit is closed, and the outcomes since it closed are some given ones. -/
structure Records (s : BreakerSettings) (outcomes : List Bool) (a : Annals) : Prop where
  leads : Leads 0 ⟨Custody.start s, []⟩ a
  closed : a.custody.breaker.state = .closed
  outcomes_eq : a.past.outcomes = outcomes

namespace Records

variable {outcomes : List Bool}

theorem settings (h : Records s outcomes a) : a.custody.breaker.settings = s := h.leads.settings

theorem faithful (h : Records s outcomes a) (hvalid : s.invalid? = none) : a.Faithful :=
  h.leads.faithful (run_faithful hvalid []) hvalid

/-- One success more. -/
theorem succeed (h : Records s outcomes a) :
    Records s (false :: outcomes) ((a.act .acquire).act (.settle 0 .succeed)) := by
  have hleads := (h.leads.act .acquire).act (.settle 0 .succeed)
  rw [call_succeed h.closed] at hleads ⊢
  exact ⟨hleads, h.closed, by simp [BreakerHistory.outcomes, BreakerHistory.grants, h.outcomes_eq]⟩

/-- One failure more that does not open the circuit. -/
theorem fail (h : Records s outcomes a) (hvalid : s.invalid? = none)
    (hstays : ¬ BreakerHistory.Trips s ((true :: outcomes).take s.windowSize)) :
    Records s (true :: outcomes) ((a.act .acquire).act (.settle 0 .fail)) := by
  have hleads := (h.leads.act .acquire).act (.settle 0 .fail)
  have htripped := (h.faithful hvalid).tripped_push_iff (by rwa [h.settings]) h.closed
  rw [h.settings, h.outcomes_eq] at htripped
  rw [call_fail h.closed, if_neg (mt htripped.mp hstays)] at hleads ⊢
  exact ⟨hleads, h.closed, by simp [BreakerHistory.outcomes, BreakerHistory.grants, h.outcomes_eq]⟩

/-- Where the window is too short for the outcomes called for, there may be any outcomes with too
few failures to open the circuit. -/
theorem exists_of_short (hvalid : s.invalid? = none) (hshort : s.windowSize < s.minimumCalls)
    (outcomes : List Bool) (hfew : outcomes.count true < s.failureThreshold) :
    ∃ a, Records s outcomes a := by
  induction outcomes with
  | nil => exact ⟨_, .refl _, rfl, rfl⟩
  | cons failed outcomes ih =>
    obtain ⟨a, h⟩ := ih (Nat.lt_of_le_of_lt List.count_le_count_cons hfew)
    cases failed with
    | false => exact ⟨_, h.succeed⟩
    | true =>
      refine ⟨_, h.fail hvalid ?_⟩
      rw [BreakerSettings.trips_iff_of_short hshort]
      have hlatest := (List.take_sublist s.windowSize (true :: outcomes)).count_le true
      omega

end Records

/-- Asking for a permit while the circuit is closed. -/
theorem act_acquire_of_closed (hclosed : a.custody.breaker.state = .closed) :
    a.act .acquire =
      ⟨{ a.custody with
          held := ⟨a.custody.granted, a.custody.breaker.permit false⟩ :: a.custody.held
          granted := a.custody.granted + 1 },
        .granted a.custody.granted :: a.past⟩ := by
  simp [Annals.act, Custody.act, Custody.acquire, seen, CircuitBreaker.acquire_closed hclosed]

/-- Where the share is reached with a failure that does not open the circuit, the next call is one
for which it is not heeded. -/
theorem Records.not_heedsShare {outcomes : List Bool} (h : Records s outcomes a)
    (hvalid : s.invalid? = none) (hshare : BreakerHistory.ReachesShare s (true :: outcomes))
    (hstays : ¬ BreakerHistory.Trips s ((true :: outcomes).take s.windowSize)) :
    ¬ (a.act .acquire).HeedsShare := by
  have hf := (h.leads.act .acquire).faithful (run_faithful hvalid []) hvalid
  have hclosed : (a.act .acquire).past.state = .closed := by
    rw [← hf.state_eq, act_acquire_of_closed h.closed]
    exact h.closed
  have houtcomes : (a.act .acquire).past.outcomes = outcomes := by
    rw [act_acquire_of_closed h.closed]
    exact h.outcomes_eq
  have hsettings : (a.act .acquire).custody.breaker.settings = s :=
    (h.leads.act .acquire).settings
  have hplace : (a.act .acquire).custody.held[0]? =
      some ⟨a.custody.granted, a.custody.breaker.permit false⟩ := by
    rw [act_acquire_of_closed h.closed]
    rfl
  have hgrant : a.custody.granted ∈ (a.act .acquire).past.grants := by
    rw [act_acquire_of_closed h.closed]
    exact List.mem_cons_self
  intro hheeds
  have hopened := hheeds hclosed (by rwa [hsettings, houtcomes]) 0 _ hplace hgrant
  rw [hf.state_settle_fail (by rwa [hsettings]) hclosed hplace hgrant, hsettings, houtcomes,
    if_neg hstays] at hopened
  cases hopened

/-- If settings are not attentive, there is a run in which the share of failures is not heeded:
after many successes come as many failures as do not open the circuit. -/
theorem exists_not_heedsShare (hvalid : s.invalid? = none) (hsize : s.windowSize < 2 ^ 32)
    (hnot : ¬ s.Attentive) : ∃ deeds, ¬ (run s deeds).HeedsShare := by
  obtain ⟨hshort, htwo, hrate⟩ := BreakerSettings.of_not_attentive hvalid hsize hnot
  have hfits := CircuitBreaker.failureThreshold_le hvalid
  obtain ⟨k, hk⟩ : ∃ k, s.failureThreshold = k + 2 := Nat.exists_eq_add_of_le' htwo
  let past := List.replicate k true ++ List.replicate s.minimumCalls false
  have hpast : past.count true = k := by simp [past, List.count_replicate]
  have hwindow : ((true :: past).take s.windowSize).count true = k + 1 := by
    have hsplit : true :: past =
        List.replicate (k + 1) true ++ List.replicate s.minimumCalls false := rfl
    rw [hsplit, List.take_append, List.take_replicate, List.take_replicate]
    simp [List.count_replicate]
    omega
  obtain ⟨a, h⟩ := Records.exists_of_short hvalid hshort past (by omega)
  obtain ⟨deeds, hrun, -⟩ := h.leads.act .acquire
  refine ⟨deeds, ?_⟩
  rw [show run s deeds = a.act .acquire from hrun]
  refine h.not_heedsShare hvalid ⟨?_, ?_⟩ ?_
  · simp [past]
    omega
  · rw [hwindow, Nat.min_eq_right (by simp [past]; omega)]
    rwa [hk] at hrate
  · rw [BreakerSettings.trips_iff_of_short hshort, hwindow]
    omega

end Annals

/-! ### Another threshold for the share -/

/-- A breaker with another threshold for the share of failures. -/
def CircuitBreaker.retuned (b : CircuitBreaker) (threshold : Float) : CircuitBreaker :=
  { b with settings := { b.settings with failureRateThreshold := threshold } }

namespace CircuitBreaker

variable {b : CircuitBreaker}

/-- Asking for a permit does not look at the share. -/
theorem acquire_retuned (b : CircuitBreaker) (threshold : Float) (now : ℕ) :
    (b.retuned threshold).acquire now =
      ((b.acquire now).1, (b.acquire now).2.retuned threshold) := by
  cases hstate : b.state with
  | closed => rw [acquire_closed hstate, acquire_closed (b := b.retuned threshold) hstate]; rfl
  | opened =>
    cases hwaited : b.waited now with
    | false =>
      rw [acquire_waiting hstate hwaited, acquire_waiting (b := b.retuned threshold) hstate hwaited]
    | true =>
      rw [acquire_waited hstate hwaited, acquire_waited (b := b.retuned threshold) hstate hwaited]
      rfl
  | halfOpen =>
    rcases Nat.lt_or_ge b.trials b.settings.permittedTrials with hroom | hfull
    · rw [acquire_trial hstate hroom, acquire_trial (b := b.retuned threshold) hstate hroom]
      rfl
    · rw [acquire_full hstate hfull, acquire_full (b := b.retuned threshold) hstate hfull]

theorem push_retuned (b : CircuitBreaker) (threshold : Float) (failed : Bool) :
    (b.retuned threshold).push failed = (b.push failed).retuned threshold := rfl

/-- A window that is too short for the outcomes called for opens the circuit by its failures alone,
whatever the threshold for their share. -/
theorem tripped_push_retuned (hwindow : 1 ≤ b.settings.windowSize)
    (hshort : b.settings.windowSize < b.settings.minimumCalls) (threshold : Float) :
    ((b.push true).retuned threshold).tripped = (b.push true).tripped := by
  have hlength := push_window_length (b := b) true hwindow
  have hcalls : decide (b.settings.minimumCalls ≤ (b.push true).window.length) = false :=
    decide_eq_false (by omega)
  simp only [tripped]
  change (_ || (decide (b.settings.minimumCalls ≤ (b.push true).window.length) && _)) =
    (_ || (decide (b.settings.minimumCalls ≤ (b.push true).window.length) && _))
  rw [hcalls, Bool.false_and, Bool.false_and]
  rfl

/-- Where the window is too short for the outcomes called for, settling a permit does not look at
the share either. -/
theorem apply_retuned (hwindow : 1 ≤ b.settings.windowSize)
    (hshort : b.settings.windowSize < b.settings.minimumCalls) (threshold : Float)
    (how : Settlement) (p : CallPermit) (now : ℕ) :
    how.apply (b.retuned threshold) p now =
      ((how.apply b p now).1, (how.apply b p now).2.retuned threshold) := by
  by_cases hcurrent : p.period = b.period
  · have hcurrent' : p.period = (b.retuned threshold).period := hcurrent
    cases htrial : p.trial with
    | true =>
      cases how with
      | succeed =>
        rw [Settlement.apply, Settlement.apply, succeed_trial hcurrent htrial,
          succeed_trial hcurrent' htrial]
        change (if b.settings.successThreshold ≤ b.successes + 1 then _ else _) = _
        split_ifs <;> rfl
      | fail =>
        rw [Settlement.apply, Settlement.apply, fail_trial hcurrent htrial,
          fail_trial hcurrent' htrial]
        rfl
      | drop =>
        rw [Settlement.apply, Settlement.apply, drop_trial hcurrent htrial,
          drop_trial hcurrent' htrial]
        rfl
    | false =>
      cases how with
      | succeed =>
        rw [Settlement.apply, Settlement.apply, succeed_call hcurrent htrial,
          succeed_call hcurrent' htrial, push_retuned]
      | fail =>
        rw [Settlement.apply, Settlement.apply, fail_call hcurrent htrial,
          fail_call hcurrent' htrial, push_retuned, tripped_push_retuned hwindow hshort]
        split_ifs <;> rfl
      | drop => rw [Settlement.apply, Settlement.apply, drop_call htrial, drop_call htrial]
  · rw [apply_stale how hcurrent, apply_stale (b := b.retuned threshold) how hcurrent]

end CircuitBreaker

namespace Annals

variable {a : Annals} {s : BreakerSettings}

/-- A breaker and its history with another threshold for the share of failures. -/
def retuned (a : Annals) (threshold : Float) : Annals :=
  { a with custody := { a.custody with breaker := a.custody.breaker.retuned threshold } }

/-- Where the window is too short for the outcomes called for, no deed looks at the share. -/
theorem act_retuned (hwindow : 1 ≤ a.custody.breaker.settings.windowSize)
    (hshort : a.custody.breaker.settings.windowSize < a.custody.breaker.settings.minimumCalls)
    (threshold : Float) (deed : Custody.Deed) :
    (a.retuned threshold).act deed = (a.act deed).retuned threshold := by
  cases deed with
  | acquire =>
    simp only [Annals.act, Custody.act, Custody.acquire, seen, retuned,
      CircuitBreaker.acquire_retuned]
    rcases a.custody.breaker.acquire a.custody.now with ⟨_ | permit, breaker⟩
    · rfl
    · have hstate : ∀ b : CircuitBreaker, (b.retuned threshold).state = b.state := fun _ ↦ rfl
      simp only [hstate]
  | settle place how =>
    cases hplace : a.custody.held[place]? with
    | none => simp only [Annals.act, Custody.act, Custody.settle, seen, retuned, hplace]
    | some h =>
      simp only [Annals.act, Custody.act, Custody.settle, seen, retuned, hplace,
        CircuitBreaker.apply_retuned hwindow hshort]
  | reset => rfl
  | wait time => rfl

/-- Where the window is too short for the outcomes called for, the threshold for the share of
failures makes no difference to any run. -/
theorem run_retuned (hvalid : s.invalid? = none) (hshort : s.windowSize < s.minimumCalls)
    (threshold : Float) (deeds : List Custody.Deed) :
    run { s with failureRateThreshold := threshold } deeds = (run s deeds).retuned threshold := by
  obtain ⟨-, -, hwindow, -⟩ := CircuitBreaker.bounds_of_valid hvalid
  induction deeds using List.reverseRecOn with
  | nil => rfl
  | append_singleton deeds deed ih =>
    rw [run_concat, run_concat, ih]
    exact act_retuned (by rwa [run_settings]) (by rwa [run_settings]) threshold deed

/-! ### Which settings heed the share -/

/-- If the window of a breaker with valid settings holds as many outcomes as are called for, then in
every run, while the circuit is closed, a failure with which enough outcomes of the period are known
and the share among the latest of them reaches the threshold opens it. If the window is too short,
the threshold for the share makes no difference to what happens in any run. So the share is heeded
in all runs exactly if the settings are attentive: the window is long enough, or a full window
cannot reach the threshold without enough failures to open the circuit. -/
theorem share_heeded_iff (s : BreakerSettings) (hvalid : s.invalid? = none)
    (hsize : s.windowSize < 2 ^ 32) :
    (s.minimumCalls ≤ s.windowSize → ∀ deeds, (run s deeds).HeedsShare) ∧
      ((∀ deeds, (run s deeds).HeedsShare) ↔ s.Attentive) ∧
      (s.windowSize < s.minimumCalls → ∀ threshold deeds,
        (run { s with failureRateThreshold := threshold } deeds).past = (run s deeds).past) := by
  have hheeds : s.Attentive → ∀ deeds, (run s deeds).HeedsShare := fun hattentive deeds ↦ by
    have hsettings := run_settings s deeds
    exact (run_faithful hvalid deeds).heedsShare (by rwa [hsettings]) (by rwa [hsettings])
      (by rwa [hsettings])
  refine ⟨fun hroom ↦ hheeds fun hshort ↦ absurd hroom (Nat.not_le.mpr hshort),
    ⟨fun hall ↦ ?_, hheeds⟩, fun hshort threshold deeds ↦ ?_⟩
  · by_contra hnot
    obtain ⟨deeds, hdeeds⟩ := exists_not_heedsShare hvalid hsize hnot
    exact hdeeds (hall deeds)
  · rw [run_retuned hvalid hshort]
    rfl

/-- The default settings heed the share: the window holds twice the outcomes called for. -/
theorem share_heeded_iff_default :
    BreakerSettings.invalid? {} = none ∧ ∀ deeds, (run {} deeds).HeedsShare := by
  have hvalid : BreakerSettings.invalid? {} = none := by decide +kernel
  exact ⟨hvalid, (share_heeded_iff {} hvalid (by decide)).1 (by decide)⟩

/-- Three outcomes are called for and the window holds two. The third outcome of the period is a
failure, with which half of the latest two are failures, and the circuit stays closed. -/
theorem share_out_of_reach :
    let s : BreakerSettings := { failureThreshold := 2, minimumCalls := 3, windowSize := 2 }
    let a := run s [.acquire, .settle 0 .succeed, .acquire, .settle 0 .succeed, .acquire]
    s.invalid? = none ∧ a.past.state = .closed ∧ a.past.outcomes = [false, false] ∧
      a.past.grants = [2, 1, 0] ∧ a.custody.held.map HeldPermit.ticket = [2] ∧
      BreakerHistory.ReachesShare s (true :: a.past.outcomes) ∧
      (a.act (.settle 0 .fail)).past.outcomes = [true, false, false] ∧
      (a.act (.settle 0 .fail)).custody.breaker.state = .closed :=
  ⟨by decide +kernel, by decide +kernel, by decide +kernel, by decide +kernel, by decide +kernel,
    by decide +kernel, by decide +kernel, by decide +kernel⟩

end Annals

end Courier

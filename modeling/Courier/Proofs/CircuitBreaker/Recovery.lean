import Courier.Proofs.CircuitBreaker.Calls

/-!
# A circuit breaker is never stuck

Whatever was done to a breaker before, calls that go well lead back to a closed circuit, and calls
that fail open it. `Custody.calls` are calls one after the other, each of which asks for a permit
and settles it after some time; a call that is granted a permit leaves the permits of others alone
(`call_eq`).

`Custody.Mending` says that at most a number of successful calls are missing until the circuit is
closed. It holds once nobody has a permit and the time of waiting has passed (`mending_of_waited`),
for then no trial is counted that nobody makes, and each call is granted its permit and takes one of
those that are missing (`Mending.call`). `Custody.Battered` says that the latest outcomes of a
closed circuit are some failures. Each failure more opens the circuit or is one more of them
(`Battered.call`), and the window has room for as many as open it. `never_stuck` joins both.
-/

set_option autoImplicit false
set_option relaxedAutoImplicit false

namespace Courier

open Rehearsal (Settlement)

/-- Open circuits do not wait less as time passes. -/
theorem CircuitBreaker.waited_of_since {b : CircuitBreaker} {since now : ℕ}
    (hopened : b.openedAt = some since) (hwait : since + b.settings.waitDuration.nanos ≤ now) :
    b.waited now = true := by
  simp only [waited, hopened, decide_eq_true_eq]
  omega

namespace Custody

/-! ### Calls one after the other -/

/-- Who asks for a permit now is granted one. -/
def Grants (c : Custody) : Prop := (c.breaker.acquire c.now).1.isSome

/-- Someone asks for a permit and settles it after some time. -/
def call (c : Custody) (how : Settlement) (time : ℕ) : Custody :=
  ((c.act .acquire).act (.wait time)).act (.settle 0 how)

/-- Calls one after the other, which take some times. -/
def calls (c : Custody) (how : Settlement) (times : List ℕ) : Custody :=
  times.foldl (fun c time ↦ c.call how time) c

variable {c : Custody} {s : BreakerSettings} {p : CallPermit} {b : CircuitBreaker} {left n : ℕ}

/-- A call that is granted its permit gives it back, and leaves those of others where they are. -/
theorem call_eq (hgrant : c.breaker.acquire c.now = (some p, b)) (how : Settlement) (time : ℕ) :
    c.call how time =
      { c with
        breaker := (how.apply b p (c.now + time)).2
        now := c.now + time
        granted := c.granted + 1 } := by
  simp [call, act, acquire, settle, hgrant]

theorem grants_of_acquire (hgrant : c.breaker.acquire c.now = (some p, b)) : c.Grants := by
  rw [Grants, hgrant]
  rfl

theorem grants_of_closed (hclosed : c.breaker.state = .closed) : c.Grants :=
  grants_of_acquire (CircuitBreaker.acquire_closed hclosed)

theorem call_settings (c : Custody) (how : Settlement) (time : ℕ) :
    (c.call how time).breaker.settings = c.breaker.settings := by
  simp [call]

theorem Sound.call (hs : c.Sound) (hvalid : c.breaker.settings.invalid? = none)
    (how : Settlement) (time : ℕ) : (c.call how time).Sound :=
  ((hs.act hvalid .acquire).act (by simpa using hvalid) (.wait time)).act (by simpa using hvalid)
    (.settle 0 how)

/-! ### Successes close the circuit -/

/-- Nobody has a permit, and the circuit is closed or at most some successful calls will close
it. -/
structure Mending (left : ℕ) (c : Custody) : Prop where
  sound : c.Sound
  valid : c.breaker.settings.invalid? = none
  free : c.held = []
  opened : c.breaker.state = .opened →
    c.breaker.waited c.now = true ∧ c.breaker.settings.successThreshold ≤ left
  halfOpen : c.breaker.state = .halfOpen →
    c.breaker.settings.successThreshold ≤ c.breaker.successes + left

/-- When nobody has a permit, no trial is under way. -/
theorem Sound.trials_of_free (hs : c.Sound) (hfree : c.held = []) : c.breaker.trials = 0 := by
  rw [hs.trials_eq, trialsHeld, hfree, List.countP_nil]

/-- When nothing is missing any more, the circuit is closed. -/
theorem Mending.closed (h : c.Mending 0) : c.breaker.state = .closed := by
  obtain ⟨-, hsuccess, -, -⟩ := CircuitBreaker.bounds_of_valid h.valid
  cases hstate : c.breaker.state with
  | closed => rfl
  | opened =>
    have hnone := (h.opened hstate).2
    omega
  | halfOpen =>
    have hnone := h.halfOpen hstate
    have hfew := h.sound.successes_lt
    omega

/-- A trial that succeeds closes the circuit, or is one of those that were missing. -/
theorem Mending.trial (h : c.Mending (left + 1)) (granted : CircuitBreaker)
    (hgrant : c.breaker.acquire c.now = (some (granted.permit true), granted))
    (hstate : granted.state = .halfOpen)
    (hleft : granted.settings.successThreshold ≤ granted.successes + (left + 1)) (time : ℕ) :
    (c.call .succeed time).Mending left := by
  have hsound := h.sound.call h.valid .succeed time
  have hvalid : (c.call .succeed time).breaker.settings.invalid? = none := by
    rw [call_settings]
    exact h.valid
  have hcall := call_eq hgrant .succeed time
  rw [Settlement.apply, CircuitBreaker.succeed_trial rfl rfl] at hcall
  rw [hcall] at hsound hvalid ⊢
  split_ifs at hsound hvalid ⊢ with hlast
  · exact ⟨hsound, hvalid, h.free, fun hopened ↦ (by cases hopened),
      fun hhalf ↦ (by cases hhalf)⟩
  · refine ⟨hsound, hvalid, h.free, fun hopened ↦ ?_, fun _ ↦ ?_⟩
    · cases hstate.symm.trans hopened
    · show granted.settings.successThreshold ≤ granted.successes + 1 + left
      omega

/-- The next call is granted its permit, and if it succeeds one call less is missing. -/
theorem Mending.call (h : c.Mending (left + 1)) (time : ℕ) :
    c.Grants ∧ (c.call .succeed time).Mending left := by
  obtain ⟨-, -, -, hpermitted⟩ := CircuitBreaker.bounds_of_valid h.valid
  cases hstate : c.breaker.state with
  | closed =>
    have hgrant := @CircuitBreaker.acquire_closed _ c.now hstate
    have hsound := h.sound.call h.valid .succeed time
    have hcall := call_eq hgrant .succeed time
    rw [Settlement.apply, CircuitBreaker.succeed_call rfl rfl] at hcall
    refine ⟨grants_of_acquire hgrant, ?_⟩
    rw [hcall] at hsound ⊢
    exact ⟨hsound, h.valid, h.free, fun hopened ↦ (by cases hstate.symm.trans hopened),
      fun hhalf ↦ (by cases hstate.symm.trans hhalf)⟩
  | opened =>
    obtain ⟨hwaited, hleft⟩ := h.opened hstate
    have hgrant := CircuitBreaker.acquire_waited hstate hwaited
    exact ⟨grants_of_acquire hgrant,
      h.trial { c.breaker.moveTo .halfOpen c.now with trials := 1 } hgrant rfl
        (Nat.le_trans hleft (Nat.le_add_left ..)) time⟩
  | halfOpen =>
    -- there is room for a trial, for none is under way
    have hroom : c.breaker.trials < c.breaker.settings.permittedTrials := by
      rw [h.sound.trials_of_free h.free]
      exact hpermitted
    have hgrant := @CircuitBreaker.acquire_trial _ c.now hstate hroom
    exact ⟨grants_of_acquire hgrant,
      h.trial { c.breaker with trials := c.breaker.trials + 1 } hgrant hstate
        (h.halfOpen hstate) time⟩

/-- Successful calls are granted their permits, as many as are missing, and close the circuit. -/
theorem Mending.calls (times : List ℕ) (h : c.Mending times.length) :
    (∀ k < times.length, (c.calls .succeed (times.take k)).Grants) ∧
      (c.calls .succeed times).breaker.state = .closed := by
  induction times generalizing c with
  | nil => exact ⟨fun k hk ↦ absurd hk (Nat.not_lt_zero k), h.closed⟩
  | cons time times ih =>
    obtain ⟨hgrants, hnext⟩ := h.call time
    obtain ⟨hall, hclosed⟩ := ih hnext
    refine ⟨fun k hk ↦ ?_, hclosed⟩
    cases k with
    | zero => exact hgrants
    | succ k => exact hall k (Nat.lt_of_succ_lt_succ hk)

/-- When nobody has a permit and the time of waiting has passed, as many successful calls are
missing as close a circuit that is half open. -/
theorem mending_of_waited {a : Annals} (hf : a.Faithful) (hfree : a.custody.held = [])
    (hvalid : a.custody.breaker.settings.invalid? = none) (wait : ℕ)
    (hwait : a.custody.breaker.settings.waitDuration.nanos ≤ wait) :
    (a.custody.act (.wait wait)).Mending a.custody.breaker.settings.successThreshold where
  sound := hf.sound.act hvalid (.wait wait)
  valid := hvalid
  free := hfree
  opened hopened := by
    refine ⟨CircuitBreaker.waited_of_since (hf.openedAt_eq (hf.state_eq.symm.trans hopened)) ?_,
      Nat.le_refl _⟩
    have hsince := hf.since_le
    show a.past.since + a.custody.breaker.settings.waitDuration.nanos ≤ a.custody.now + wait
    omega
  halfOpen _ := Nat.le_add_left ..

/-! ### Failures open the circuit -/

/-- The circuit is closed, and its latest outcomes are some failures, not enough to open it. -/
structure Battered (n : ℕ) (c : Custody) : Prop where
  sound : c.Sound
  valid : c.breaker.settings.invalid? = none
  closed : c.breaker.state = .closed
  latest : List.replicate n true <:+ c.breaker.window
  few : n < c.breaker.settings.failureThreshold

/-- As long as there is room for them, failures stay in the window. -/
theorem replicate_suffix_push (hlatest : List.replicate n true <:+ b.window)
    (hroom : n < b.settings.windowSize) :
    List.replicate (n + 1) true <:+ (b.push true).window := by
  rw [CircuitBreaker.push_window, List.replicate_succ']
  have hlength := hlatest.length_le
  rw [List.length_replicate] at hlength
  have hkept : List.replicate n true <:+
      b.window.drop (b.window.length + 1 - b.settings.windowSize) := by
    refine List.suffix_of_suffix_length_le hlatest (List.drop_suffix ..) ?_
    rw [List.length_replicate, List.length_drop]
    omega
  obtain ⟨earlier, heq⟩ := hkept
  exact ⟨earlier, by rw [← heq, List.append_assoc]⟩

/-- One failure more opens the circuit, or is one more of its latest outcomes. -/
theorem Battered.call (h : c.Battered n) (time : ℕ) :
    (c.call .fail time).breaker.state = .opened ∨ (c.call .fail time).Battered (n + 1) := by
  have hroom := CircuitBreaker.failureThreshold_le h.valid
  have hlatest := replicate_suffix_push h.latest (Nat.lt_of_lt_of_le h.few hroom)
  have hsound := h.sound.call h.valid .fail time
  have hcall := call_eq (CircuitBreaker.acquire_closed h.closed) .fail time
  rw [Settlement.apply, CircuitBreaker.fail_call rfl rfl] at hcall
  rw [hcall] at hsound ⊢
  by_cases htripped : (c.breaker.push true).tripped = true
  · exact .inl (by rw [if_pos htripped]; rfl)
  · rw [if_neg htripped] at hsound ⊢
    refine .inr ⟨hsound, h.valid, h.closed, hlatest, ?_⟩
    -- the failures that are counted are at least those at the end of the window
    have hcount : n + 1 ≤ (c.breaker.push true).failures := by
      rw [CircuitBreaker.push_failures true h.sound.failures_eq]
      simpa using hlatest.sublist.count_le true
    have huntripped : (c.breaker.push true).failures < c.breaker.settings.failureThreshold := by
      by_contra hmany
      exact htripped (by simp [CircuitBreaker.tripped, Nat.le_of_not_lt hmany])
    exact Nat.lt_of_le_of_lt hcount huntripped

/-- Failed calls open the circuit as soon as enough of its latest outcomes are failures, if not
sooner. -/
theorem Battered.calls (times : List ℕ) (h : c.Battered n)
    (htimes : n + times.length = c.breaker.settings.failureThreshold) :
    ∃ k ≤ times.length, (c.calls .fail (times.take k)).breaker.state = .opened ∧
      ∀ j < k, (c.calls .fail (times.take j)).breaker.state = .closed := by
  induction times generalizing c n with
  | nil => exact absurd h.few (by simp only [List.length_nil] at htimes; omega)
  | cons time times ih =>
    have hfirst : ∀ k : ℕ, (c.calls .fail ((time :: times).take (k + 1))) =
        (c.call .fail time).calls .fail (times.take k) := fun _ ↦ rfl
    obtain hopened | hbattered := h.call time
    · refine ⟨1, by simp, hopened, fun j hj ↦ ?_⟩
      obtain rfl : j = 0 := by omega
      exact h.closed
    · obtain ⟨k, hk, hopened, hclosed⟩ := ih hbattered (by
        rw [call_settings, ← htimes, List.length_cons]
        omega)
      refine ⟨k + 1, Nat.succ_le_succ hk, by rwa [hfirst], fun j hj ↦ ?_⟩
      cases j with
      | zero => exact h.closed
      | succ j =>
        rw [hfirst]
        exact hclosed j (Nat.lt_of_succ_lt_succ hj)

/-! ### Every state -/

/-- A breaker with valid settings is never stuck, whatever was done to it before. When nobody has a
permit any more and the time of waiting has passed, the next calls are granted their permits as long
as all of them succeed, and as many as `successThreshold` of them leave the circuit closed. While
the circuit is closed, calls that fail one after the other are granted their permits until one of
them opens it, and that is the one with number `failureThreshold` at the latest, whatever permits
others have. It does not matter how much time the calls take. -/
theorem never_stuck (s : BreakerSettings) (hvalid : s.invalid? = none) (deeds : List Deed) :
    let c := run s deeds
    (c.held = [] → ∀ (wait : ℕ) (times : List ℕ), s.waitDuration.nanos ≤ wait →
      times.length = s.successThreshold →
      (∀ k < times.length, ((c.act (.wait wait)).calls .succeed (times.take k)).Grants) ∧
        ((c.act (.wait wait)).calls .succeed times).breaker.state = .closed) ∧
    (c.breaker.state = .closed → ∀ times : List ℕ, times.length = s.failureThreshold →
      ∃ k ≤ times.length, (c.calls .fail (times.take k)).breaker.state = .opened ∧
        ∀ j < k, (c.calls .fail (times.take j)).breaker.state = .closed ∧
          (c.calls .fail (times.take j)).Grants) := by
  intro c
  obtain ⟨hsound, hsettings⟩ : c.Sound ∧ c.breaker.settings = s := run_sound hvalid deeds
  have hvalid' : c.breaker.settings.invalid? = none := by rwa [hsettings]
  refine ⟨fun hfree wait times hwait htimes ↦ ?_, fun hclosed times htimes ↦ ?_⟩
  · have hf := Annals.run_faithful hvalid deeds
    have hcustody : (Annals.run s deeds).custody = c := Annals.run_custody s deeds
    have hmending := mending_of_waited hf (by rwa [hcustody]) (by rwa [hcustody]) wait
      (by rwa [hcustody, hsettings])
    rw [hcustody, hsettings, ← htimes] at hmending
    exact hmending.calls
  · obtain ⟨hpositive, -, -, -⟩ := CircuitBreaker.bounds_of_valid hvalid
    have hbattered : c.Battered 0 :=
      ⟨hsound, hvalid', hclosed, List.nil_suffix, by rwa [hsettings]⟩
    obtain ⟨k, hk, hopened, hearlier⟩ := hbattered.calls times (by
      rw [hsettings, Nat.zero_add, htimes])
    exact ⟨k, hk, hopened, fun j hj ↦ ⟨hearlier j hj, grants_of_closed (hearlier j hj)⟩⟩

/-- A trial was dropped and a permit of an earlier period was settled: the circuit is half open, and
two successful calls close it. A circuit is closed and someone has a permit: one failed call opens
it. -/
theorem never_stuck_after_drop :
    BreakerSettings.invalid? { failureThreshold := 1, waitDuration := .zero } = none ∧
      (run { failureThreshold := 1, waitDuration := .zero }
        [.acquire, .acquire, .settle 1 .fail, .acquire, .settle 0 .drop,
          .settle 0 .succeed]).breaker.state = .halfOpen ∧
      (((run { failureThreshold := 1, waitDuration := .zero }
        [.acquire, .acquire, .settle 1 .fail, .acquire, .settle 0 .drop,
          .settle 0 .succeed]).act (.wait 0)).calls .succeed [5, 0]).breaker.state = .closed ∧
      (run { failureThreshold := 1, waitDuration := .zero } [.acquire]).held.length = 1 ∧
      ∃ k ≤ 1, ((run { failureThreshold := 1, waitDuration := .zero } [.acquire]).calls .fail
        (List.take k [0])).breaker.state = .opened := by
  have hvalid : BreakerSettings.invalid? { failureThreshold := 1, waitDuration := .zero } = none :=
    by decide
  obtain ⟨k, hk, hopened, -⟩ := (never_stuck _ hvalid [.acquire]).2 (by decide) [0] (by decide)
  exact ⟨hvalid, by decide,
    ((never_stuck _ hvalid _).1 (by decide) 0 [5, 0] (by decide) (by decide)).2,
    by decide, k, hk, hopened⟩

end Custody

end Courier

import Courier.Proofs.Gate.Answers
import Courier.Proofs.Gate.Isolation

/-!
# A gate runs by its settings

`Gate.RunsBy` says that all parts of a gate run by some settings: how long one waits for a slot, how
long for admission and with which quota, and when the circuit opens and closes. A new gate runs by
the settings it is made with (`Gate.runsBy_of_new`), and whoever works on it leaves it so
(`Gate.RunsBy.apply`). Hence all gates of a registry run by the settings that the registry has for
their resources, whatever errands were done (`GateRegistry.runsBySettings_run`), and who asks for a
gate again gets one that runs by the same settings (`GateRegistry.exists_gate_run`).

A gate can be made from all settings whose slots can be counted and whose tokens come back in a time
that fits a bucket, and from no others (`Gate.exists_new_iff`).
-/

set_option autoImplicit false
set_option relaxedAutoImplicit false

namespace Courier

/-! ### The quota of a limiter -/

namespace RateLimiter

theorem fresh_restore (l : RateLimiter) : l.restore.2.fresh = l.fresh := by
  unfold restore
  split <;> rfl

theorem fresh_poll (l : RateLimiter) (wall : ℕ) : (l.poll wall).2.fresh = l.fresh := by
  have hrefresh : (l.refresh wall).fresh = l.fresh := by
    unfold refresh
    split
    · split_ifs
      · exact l.fresh_restore
      · rfl
    · rfl
  unfold poll
  simp only
  split <;> exact hrefresh

theorem fresh_throttle {l l' : RateLimiter} {cooldown : Duration} {wall : ℕ}
    (h : l.throttle cooldown wall = .ok l') : l'.fresh = l.fresh := by
  rw [throttle_eq] at h
  split_ifs at h <;> cases h <;> rfl

end RateLimiter

namespace Admission

variable {m : Moment} {a : Admission} {l l' : RateLimiter}
  {turn : Turn Admission (Except Crash Bool)}

theorem fresh_poll (m : Moment) (deadline : ℕ) (l : RateLimiter) :
    (poll m deadline l).2.fresh = l.fresh := by
  rw [← l.fresh_poll m.wall]
  unfold poll
  split
  · rename_i hadmits
    rw [hadmits]
  · rename_i hrefuses
    rw [hrefuses]
    split <;> rfl

/-- Asking a limiter leaves its quota as it is. -/
theorem fresh_of_step (h : a.step m l = some (turn, l')) : l'.fresh = l.fresh := by
  unfold step at h
  split at h
  · split at h
    · cases h
      rfl
    · rename_i deadline _
      rw [← fresh_poll m deadline l, Option.some.inj h]
  · rename_i wake deadline
    split_ifs at h
    rw [← fresh_poll m deadline l, Option.some.inj h]

end Admission

namespace LimiterSettings

/-- The time in which all tokens come back, in nanoseconds: the period of refresh without what
cannot be divided among the calls. -/
def refill (s : LimiterSettings) : ℕ :=
  s.refreshPeriod.nanos / max s.limitForPeriod 1 * max s.limitForPeriod 1

theorem refill_le (s : LimiterSettings) : s.refill ≤ s.refreshPeriod.nanos :=
  Nat.div_mul_le_self _ _

/-- There is a bucket if and only if the time in which all tokens come back fits one. -/
theorem exists_bucket_iff (s : LimiterSettings) :
    (∃ b, s.bucket = .ok b) ↔ s.refill ≤ TokenBucket.maxPeriod := by
  -- one token takes no longer than all of them
  have hfull : ∀ period, (∃ b, TokenBucket.full period (max s.limitForPeriod 1) = .ok b) ↔
      period * max s.limitForPeriod 1 ≤ TokenBucket.maxPeriod := by
    intro period
    have hone : period ≤ period * max s.limitForPeriod 1 :=
      Nat.le_mul_of_pos_right period (lt_max_of_lt_right Nat.one_pos)
    rw [TokenBucket.full]
    split_ifs with hlong
    · simp only [exists_false, false_iff]
      omega
    · simp only [Except.ok.injEq, exists_eq', true_iff]
      omega
  simp only [bucket, hfull, refill]
  split_ifs with hshort
  · -- the second in the place of a period that is too short always fits
    have hsecond : Duration.nanosPerSecond ≤ TokenBucket.maxPeriod := by decide
    rw [hshort, Nat.zero_mul]
    exact iff_of_true ((Nat.div_mul_le_self _ _).trans hsecond) (Nat.zero_le _)
  · exact Iff.rfl

end LimiterSettings

/-! ### Heeding -/

namespace GateCall

variable {f : Feedback} {m : Moment} {c : GateCall} {s s' : GateScene} {r : SendResult}

/-- Where rate limits are heeded, one throttles the limiter and is reported; nothing else does
anything. -/
theorem heed_eq_ok (h : heed f m s r = .ok s') :
    if r.isRateLimited ∧ f.enabled then
      ∃ limiter, s.gate.limiter.throttle (f.cooldownFor r.retryAfter) m.wall = .ok limiter ∧
        s' = (s.withLimiter limiter).report (.externalRateLimit s.gate.resource r.retryAfter)
    else s' = s := by
  by_cases hlimited : r.isRateLimited = true
  · by_cases henabled : f.enabled = true
    · rw [if_pos ⟨hlimited, henabled⟩]
      simp only [heed, if_pos hlimited, Feedback.heed, if_pos henabled] at h
      cases hthrottle : s.gate.limiter.throttle (f.cooldownFor r.retryAfter) m.wall with
      | error crash =>
        rw [hthrottle] at h
        cases h
      | ok limiter =>
        rw [hthrottle] at h
        cases h
        exact ⟨limiter, rfl, rfl⟩
    · rw [if_neg fun hboth ↦ henabled hboth.2]
      simp only [heed, if_pos hlimited, Feedback.heed, if_neg henabled] at h
      exact (Except.ok.inj h).symm
  · rw [if_neg fun hboth ↦ hlimited hboth.1]
    simp only [heed, if_neg hlimited] at h
    exact (Except.ok.inj h).symm

end GateCall

/-- The slots of a gate can be counted, and its tokens come back in a time that fits a bucket. -/
def GateSettings.Fits (s : GateSettings) : Prop :=
  s.bulkhead.maxConcurrent ≤ Crash.maxSlots ∧ s.limiter.refill ≤ TokenBucket.maxPeriod

/-! ### All parts of a gate -/

/-- All parts of a gate run by some settings. -/
structure Gate.RunsBy (wanted : GateSettings) (g : Gate) : Prop where
  settings : g.settings = wanted
  maxWait : g.bulkhead.maxWait = wanted.bulkhead.maxWait
  limiter : g.limiter.settings = wanted.limiter
  quota : wanted.limiter.bucket = .ok g.limiter.fresh
  breaker : g.breaker.settings = wanted.breaker

/-- Whoever changes place at a bulkhead leaves the time of waiting as it is. -/
theorem Bulkhead.Passage.maxWait {b b' : Bulkhead} {x y : Standing} (h : Passage b x b' y) :
    b'.maxWait = b.maxWait := by
  have hrelease : ∀ b : Bulkhead, b.release.maxWait = b.maxWait := by
    intro b
    unfold release
    split <;> rfl
  cases h with
  | stays | queues => rfl
  | takes htake => rw [(take?_eq_some.mp htake).2]
  | claims hclaim => rw [(claim?_eq_some.mp hclaim).2]
  | abandons ticket =>
    unfold abandon
    split
    · rename_i b' hclaim
      rw [hrelease, (claim?_eq_some.mp hclaim).2]
    · rfl
  | leaves => exact hrelease b

namespace Gate

variable {settings : GateSettings} {resource : String} {g g' : Gate} {f : Feedback} {m : Moment}
  {c : GateCall} {s : GateScene}

/-- A new gate runs by the settings it is made with. -/
theorem runsBy_of_new (h : Gate.new resource settings = .ok g) : g.RunsBy settings := by
  obtain ⟨hbulkhead, hbreaker⟩ := Traffic.gate_of_new h
  obtain ⟨hsettings, hlimiter⟩ := Traffic.settings_of_new h
  refine ⟨hsettings, ?_, hlimiter, ?_, by rw [hbreaker]⟩
  · unfold Bulkhead.new at hbulkhead
    split_ifs at hbulkhead
    rw [← Except.ok.inj hbulkhead]
  · unfold Gate.new at h
    simp only [bind, Except.bind] at h
    split at h
    · cases h
    · split at h
      · cases h
      · rename_i hnew
        cases h
        exact (RateLimiter.new_eq hnew).1

/-- A gate can be made if and only if its slots can be counted and its tokens come back in a time
that fits a bucket. -/
theorem exists_new_iff (resource : String) (settings : GateSettings) :
    (∃ g, Gate.new resource settings = .ok g) ↔ settings.Fits := by
  rw [GateSettings.Fits, ← LimiterSettings.exists_bucket_iff]
  simp only [Gate.new, Bulkhead.new, RateLimiter.new, bind, Except.bind]
  split_ifs with hslots
  · simp only [exists_false, false_iff, not_and]
    exact fun hcounted ↦ absurd hcounted (Nat.not_le_of_lt hslots)
  · rw [and_iff_right (not_lt.mp hslots)]
    cases settings.limiter.bucket with
    | error crash => simp only [reduceCtorEq, exists_false]
    | ok bucket => exact iff_of_true ⟨_, rfl⟩ ⟨_, rfl⟩

/-- Heeding a provider leaves the quota of the limiter as it is. -/
theorem fresh_of_heed {scene : GateScene} {r : SendResult}
    (h : GateCall.heed f m s r = .ok scene) :
    scene.gate.limiter.fresh = s.gate.limiter.fresh := by
  have heq := GateCall.heed_eq_ok h
  split_ifs at heq
  · obtain ⟨limiter, hthrottle, rfl⟩ := heq
    exact RateLimiter.fresh_throttle hthrottle
  · rw [heq]

/-- What follows on the result of an attempt leaves the quota of the limiter as it is. -/
theorem fresh_of_finish (p : CallPermit) (n : ℕ) (r : SendResult) :
    (GateCall.finish f m c s p n r).2.gate.limiter.fresh = s.gate.limiter.fresh := by
  unfold GateCall.finish
  split_ifs
  · rfl
  · split
    · rfl
    · rename_i scene hheed
      rw [← fresh_of_heed hheed]
      split_ifs
      · split <;> rfl
      · rfl

/-- A move of a call leaves the quota of the limiter as it is. -/
theorem fresh_of_step {next : GateCall.Next} (h : c.step f m s = some next) :
    next.2.gate.limiter.fresh = s.gate.limiter.fresh := by
  unfold GateCall.step at h
  split at h
  · split at h
    · cases h
    · simp only at h
      split at h <;> cases h <;> rfl
  · split at h
    · cases h
    · rename_i turn limiter hadmission
      rw [← Admission.fresh_of_step hadmission]
      simp only at h
      split at h <;> cases h
      · rfl
      · unfold GateCall.admitted
        split <;> rfl
      · rfl
      · rfl
  · split_ifs at h
    · split at h <;> cases h
      · rfl
      · exact fresh_of_finish ..
    · cases h
      exact fresh_of_finish ..
  · split_ifs at h
    cases h
    rfl

/-- A call that moves leaves the gate running by its settings. -/
theorem RunsBy.step (h : s.gate.RunsBy settings) {next : GateCall.Next}
    (hstep : c.step f m s = some next) : next.2.gate.RunsBy settings := by
  have hadvance := GateCall.advance_of_step hstep
  have hmatches := GateCall.matches_of_advance hadvance
  exact
    { settings := hmatches.settings.trans h.settings
      maxWait := (GateCall.passage_of_advance hadvance).maxWait.trans h.maxWait
      limiter := hmatches.limiter.trans h.limiter
      quota := by rw [fresh_of_step hstep]; exact h.quota
      breaker := (GateCall.deals_of_advance hadvance).settings.trans h.breaker }

/-- So does a call that is given up. -/
theorem RunsBy.cancel (h : s.gate.RunsBy settings) (c : GateCall) :
    (c.cancel s).gate.RunsBy settings := by
  have hmatches := GateCall.matches_of_cancel c s
  have hfresh : (c.cancel s).gate.limiter.fresh = s.gate.limiter.fresh := by
    unfold GateCall.cancel
    split <;> rfl
  exact
    { settings := hmatches.settings.trans h.settings
      maxWait := GateCall.passage_of_cancel.maxWait.trans h.maxWait
      limiter := hmatches.limiter.trans h.limiter
      quota := by rw [hfresh]; exact h.quota
      breaker := (GateCall.deals_of_cancel : GateCall.Deals 0 _ _ _ _).settings.trans h.breaker }

/-- So does a rate limit of the provider. -/
theorem RunsBy.heed (h : g.RunsBy settings) {retryAfter : Option Duration} {wall : ℕ}
    {cooldown : Duration} {limiter : RateLimiter} {event : Event}
    (hheed : f.heed resource g.limiter retryAfter wall = .ok (some (cooldown, limiter, event))) :
    RunsBy settings { g with limiter } := by
  unfold Feedback.heed at hheed
  split_ifs at hheed
  · simp only at hheed
    split at hheed
    · cases hheed
    · rename_i hthrottle
      cases hheed
      exact
        { settings := h.settings
          maxWait := h.maxWait
          limiter := (RateLimiter.settings_throttle hthrottle).trans h.limiter
          quota := by rw [RateLimiter.fresh_throttle hthrottle]; exact h.quota
          breaker := h.breaker }
  · cases hheed

/-- Work on a gate makes it by its settings, or leaves it running by them. -/
theorem RunsBy.apply {before after : Option Gate} (w : GateWork)
    (h : ∀ g ∈ before, g.RunsBy settings)
    (happly : w.apply resource settings f before = after) : ∀ g ∈ after, g.RunsBy settings := by
  subst happly
  have hmade : ∀ g ∈ before.or (Gate.new resource settings).toOption, g.RunsBy settings := by
    intro g hg
    cases before with
    | some g' => exact h g hg
    | none =>
      cases hnew : Gate.new resource settings with
      | error crash =>
        rw [hnew] at hg
        cases hg
      | ok g' =>
        rw [hnew] at hg
        cases hg
        exact runsBy_of_new hnew
  intro g hg
  cases w with
  | ask => exact hmade g hg
  | call c m sender =>
    obtain ⟨g', hg', rfl⟩ := Option.map_eq_some_iff.mp hg
    cases hstep : c.step f m { gate := g', sender } with
    | none => exact h g' hg'
    | some next => exact (h g' hg').step hstep
  | cancel c sender =>
    obtain ⟨g', hg', rfl⟩ := Option.map_eq_some_iff.mp hg
    exact (h g' hg').cancel c
  | heed retryAfter wall =>
    obtain ⟨g', hg', rfl⟩ := Option.map_eq_some_iff.mp hg
    split
    · exact (hmade g' hg').heed ‹_›
    · exact hmade g' hg'

end Gate

/-! ### Registries -/

namespace GateRegistry

variable {r : GateRegistry}

/-- The gates of a registry run by the settings that it has for their resources. -/
def RunsBySettings (r : GateRegistry) : Prop :=
  ∀ resource, ∀ g ∈ r.get? resource, g.RunsBy (r.settingsFor resource)

/-- Errands leave all gates running by their settings. -/
theorem runsBySettings_run (horderly : r.Orderly) (h : r.RunsBySettings) (errands : List Errand) :
    (r.run errands).RunsBySettings := by
  induction errands using List.reverseRecOn with
  | nil => exact h
  | append_singleton errands e ih =>
    obtain ⟨horderly', -, -⟩ := run_spec horderly errands
    obtain ⟨htouches, hget⟩ := perform_spec horderly' e.endpoint.resource e.work
    have hrun : r.run (errands ++ [e]) =
        (r.run errands).perform e.endpoint.resource e.work := List.foldl_concat ..
    rw [hrun]
    intro resource g hg
    rw [htouches.settingsFor]
    by_cases hsame : resource = e.endpoint.resource
    · subst hsame
      exact Gate.RunsBy.apply e.work (ih _) hget.symm g hg
    · rw [htouches.others resource hsame] at hg
      exact ih resource g hg

/-- A gate that is there stays there. -/
theorem isSome_get?_run (horderly : r.Orderly) {resource : String}
    (hsome : (r.get? resource).isSome) (errands : List Errand) :
    ((r.run errands).get? resource).isSome := by
  induction errands using List.reverseRecOn with
  | nil => exact hsome
  | append_singleton errands e ih =>
    obtain ⟨horderly', -, -⟩ := run_spec horderly errands
    obtain ⟨htouches, hget⟩ := perform_spec horderly' e.endpoint.resource e.work
    have hrun : r.run (errands ++ [e]) =
        (r.run errands).perform e.endpoint.resource e.work := List.foldl_concat ..
    rw [hrun]
    by_cases hsame : resource = e.endpoint.resource
    · subst hsame
      rw [hget]
      obtain ⟨g, hg⟩ := Option.isSome_iff_exists.mp ih
      cases e.work <;> simp [GateWork.apply, hg]
    · rwa [htouches.others resource hsame]

/-- Who asks for the gate of a resource gets one if there is one or one can be made. -/
theorem exists_gate_of_fits (r : GateRegistry) (resource : String)
    (h : (r.settingsFor resource).Fits) : ∃ g r', r.gate resource = .ok (g, r') := by
  cases hget : r.get? resource with
  | some g => exact ⟨g, r, by simp only [gate, hget]⟩
  | none =>
    obtain ⟨g, hnew⟩ := (Gate.exists_new_iff resource _).mpr h
    exact ⟨g, r.set g, by simp only [gate, hget, hnew]⟩

theorem exists_gate (r : GateRegistry) (resource : String)
    (hslots : (r.settingsFor resource).bulkhead.maxConcurrent ≤ Crash.maxSlots)
    (hperiod : (r.settingsFor resource).limiter.refreshPeriod.nanos ≤ TokenBucket.maxPeriod) :
    ∃ g r', r.gate resource = .ok (g, r') :=
  r.exists_gate_of_fits resource ⟨hslots, (LimiterSettings.refill_le _).trans hperiod⟩

variable {resource : String} {g : Gate} {r' : GateRegistry}

/-- A gate that nobody has asked for before is made by the settings of its resource. -/
theorem new_of_gate (hgate : r.gate resource = .ok (g, r')) (hnone : r.get? resource = none) :
    Gate.new resource (r.settingsFor resource) = .ok g := by
  simp only [gate, hnone] at hgate
  split at hgate
  · cases hgate
  · rename_i hnew
    cases hgate
    exact hnew

/-- Who asks for a gate gets one that runs by the settings of its resource, and all gates do so
afterwards. -/
theorem runsBySettings_of_gate (horderly : r.Orderly) (h : r.RunsBySettings)
    (hgate : r.gate resource = .ok (g, r')) :
    g.RunsBy (r.settingsFor resource) ∧ r.Touches resource r' ∧ r'.RunsBySettings ∧
      r'.get? resource = some g := by
  obtain ⟨htouches, hget⟩ := perform_spec horderly resource .ask
  obtain ⟨-, hfound⟩ := keeps_of_gate hgate
  have hperform : r.perform resource .ask = r' := by rw [perform, hgate]
  rw [hperform] at htouches hget
  have hruns := Gate.RunsBy.apply (.ask) (h resource) hget.symm
  refine ⟨hruns g hfound, htouches, fun other g' hg' ↦ ?_, hfound⟩
  rw [htouches.settingsFor]
  by_cases hsame : other = resource
  · subst hsame
    exact hruns g' hg'
  · rw [htouches.others other hsame] at hg'
    exact h other g' hg'

/-- Who asks again after some errands gets a gate that runs by the same settings. -/
theorem exists_gate_run (horderly : r.Orderly) (h : r.RunsBySettings)
    (hgate : r.gate resource = .ok (g, r')) (errands : List Errand) :
    ∃ g', (r'.run errands).gate resource = .ok (g', r'.run errands) ∧
      g'.RunsBy (r.settingsFor resource) := by
  obtain ⟨-, htouches, hruns, hfound⟩ := runsBySettings_of_gate horderly h hgate
  have horderly' := htouches.orderly horderly
  obtain ⟨g', hlater⟩ := Option.isSome_iff_exists.mp
    (isSome_get?_run horderly' (by rw [hfound]; rfl) errands)
  have hlaterRuns := runsBySettings_run horderly' hruns errands resource g' hlater
  obtain ⟨-, -, hresource⟩ := run_spec horderly' errands
  rw [(hresource resource).1, htouches.settingsFor] at hlaterRuns
  exact ⟨g', by simp only [gate, hlater], hlaterRuns⟩

end GateRegistry

end Courier

import Courier.Gate.Call
import Mathlib.Data.Nat.Notation
import Mathlib.Tactic.SplitIfs

/-!
# The moves of a call

`GateCall.Advance` has one constructor for each way in which a call can move, with all that the move
leaves behind: what becomes of the call, the slots, the limiter, the breaker and the events. A call
makes no other move (`GateCall.advance_of_step`).

Heeding a provider throttles the limiter and reports the signal, and changes nothing else
(`GateScene.Heeded`). A gate keeps its name and its settings (`GateCall.matches_of_advance`).
-/

set_option autoImplicit false
set_option relaxedAutoImplicit false

namespace Courier

/-! ### The settings of a limiter -/

namespace RateLimiter

theorem settings_restore (l : RateLimiter) : l.restore.2.settings = l.settings := by
  unfold restore
  split <;> rfl

theorem settings_refresh (l : RateLimiter) (wall : ℕ) :
    (l.refresh wall).settings = l.settings := by
  unfold refresh
  split
  · split_ifs
    · exact l.settings_restore
    · rfl
  · rfl

theorem settings_poll (l : RateLimiter) (wall : ℕ) :
    (l.poll wall).2.settings = l.settings := by
  unfold poll
  simp only
  split <;> exact l.settings_refresh wall

theorem settings_throttle {l l' : RateLimiter} {cooldown : Duration} {wall : ℕ}
    (h : l.throttle cooldown wall = .ok l') : l'.settings = l.settings := by
  unfold throttle at h
  split_ifs at h
  · cases h
    rfl
  · split at h <;> cases h
    rfl

end RateLimiter

theorem Admission.settings_poll (m : Moment) (deadline : ℕ) (l : RateLimiter) :
    (poll m deadline l).2.settings = l.settings := by
  rw [← l.settings_poll m.wall]
  unfold poll
  split
  · rename_i hadmits
    rw [hadmits]
  · rename_i hrefuses
    rw [hrefuses]
    split <;> rfl

/-- Asking a limiter leaves its settings as they are. -/
theorem Admission.settings_of_step {m : Moment} {a : Admission} {l l' : RateLimiter}
    {turn : Turn Admission (Except Crash Bool)} (h : a.step m l = some (turn, l')) :
    l'.settings = l.settings := by
  unfold step at h
  split at h
  · split at h
    · cases h
      rfl
    · rename_i deadline _
      rw [← settings_poll m deadline l, Option.some.inj h]
  · rename_i wake deadline
    split_ifs at h
    rw [← settings_poll m deadline l, Option.some.inj h]

/-! ### Gates and scenes -/

/-- The gate of the same resource, with the same settings. -/
structure Gate.Matches (g g' : Gate) : Prop where
  resource : g'.resource = g.resource
  settings : g'.settings = g.settings
  limiter : g'.limiter.settings = g.limiter.settings

theorem Gate.Matches.refl (g : Gate) : g.Matches g := ⟨rfl, rfl, rfl⟩

theorem Gate.Matches.trans {g g' g'' : Gate} (h : g.Matches g') (h' : g'.Matches g'') :
    g.Matches g'' :=
  ⟨h'.resource.trans h.resource, h'.settings.trans h.settings, h'.limiter.trans h.limiter⟩

namespace GateScene

/-- The scene with other slots. -/
def withBulkhead (s : GateScene) (bulkhead : Bulkhead) : GateScene :=
  { s with gate := { s.gate with bulkhead } }

/-- The scene with another limiter. -/
def withLimiter (s : GateScene) (limiter : RateLimiter) : GateScene :=
  { s with gate := { s.gate with limiter } }

/-- The scene with another breaker. -/
def withBreaker (s : GateScene) (breaker : CircuitBreaker) : GateScene :=
  { s with gate := { s.gate with breaker } }

/-- A provider was heeded, if there was something to heed. -/
inductive Heeded (s : GateScene) : GateScene → Prop where
  | nothing : Heeded s s
  | throttled {limiter : RateLimiter} (retryAfter : Option Duration)
      (hsettings : limiter.settings = s.gate.limiter.settings) :
      Heeded s ((s.withLimiter limiter).report (.externalRateLimit s.gate.resource retryAfter))

end GateScene

namespace GateCall

/-- The moves of a call: what it turns into and the scene afterwards. -/
inductive Advance (f : Feedback) (m : Moment) (c : GateCall) (s : GateScene) :
    Turn GateCall GateCall.End → GateScene → Prop where
  /-- The call gets in line for a slot. -/
  | queues {wait wait' : SlotWait} {bulkhead : Bulkhead} (hphase : c.phase = .entering wait)
      (hwait : wait.step m s.gate.bulkhead = some (.going wait', bulkhead)) :
      Advance f m c s (.going { c with phase := .entering wait' }) (s.withBulkhead bulkhead)
  /-- The call gets a slot. -/
  | enters {wait : SlotWait} {bulkhead : Bulkhead} (hphase : c.phase = .entering wait)
      (hwait : wait.step m s.gate.bulkhead = some (.done true, bulkhead)) :
      Advance f m c s (.going { c with phase := .pacing .begun }) (s.withBulkhead bulkhead)
  /-- The call gets no slot. -/
  | full {wait : SlotWait} {bulkhead : Bulkhead} (hphase : c.phase = .entering wait)
      (hwait : wait.step m s.gate.bulkhead = some (.done false, bulkhead)) :
      Advance f m c s (.done (.ok (.rejected .bulkheadFull)))
        ((s.withBulkhead bulkhead).report (.bulkheadFull s.gate.resource))
  /-- The call waits for the limiter. -/
  | polls {admission admission' : Admission} {limiter : RateLimiter}
      (hphase : c.phase = .pacing admission)
      (hadmission : admission.step m s.gate.limiter = some (.going admission', limiter)) :
      Advance f m c s (.going { c with phase := .pacing admission' }) (s.withLimiter limiter)
  /-- The limiter turns the call away. -/
  | limited {admission : Admission} {limiter : RateLimiter} (hphase : c.phase = .pacing admission)
      (hadmission : admission.step m s.gate.limiter = some (.done (.ok false), limiter)) :
      Advance f m c s (.done (.ok (.rejected .rateLimited)))
        ((s.withLimiter limiter).report (.rateLimited s.gate.resource)).leave
  /-- The limiter crashes. -/
  | overflows {admission : Admission} {limiter : RateLimiter} {reason : Crash}
      (hphase : c.phase = .pacing admission)
      (hadmission : admission.step m s.gate.limiter = some (.done (.error reason), limiter)) :
      Advance f m c s (.done (.error reason)) (s.withLimiter limiter).leave
  /-- The breaker turns the call away. -/
  | skipped {admission : Admission} {limiter : RateLimiter} {breaker : CircuitBreaker}
      (hphase : c.phase = .pacing admission)
      (hadmission : admission.step m s.gate.limiter = some (.done (.ok true), limiter))
      (hbreaker : s.gate.breaker.acquire m.now = (none, breaker)) :
      Advance f m c s (.done (.ok (.rejected .circuitOpen)))
        (((s.withLimiter limiter).withBreaker breaker).report (.skipped s.gate.resource)).leave
  /-- The call gets a permit and begins its first attempt. -/
  | admitted {admission : Admission} {limiter : RateLimiter} {breaker : CircuitBreaker}
      {p : CallPermit} (hphase : c.phase = .pacing admission)
      (hadmission : admission.step m s.gate.limiter = some (.done (.ok true), limiter))
      (hbreaker : s.gate.breaker.acquire m.now = (some p, breaker)) :
      Advance f m c s (attempt m c ((s.withLimiter limiter).withBreaker breaker) p 1).1
        (attempt m c ((s.withLimiter limiter).withBreaker breaker) p 1).2
  /-- The attempt succeeds. -/
  | delivers {p : CallPermit} {n due deadline : ℕ} {r : SendResult}
      (hphase : c.phase = .sending p n (.result r) due deadline) (hsuccess : r.success = true) :
      Advance f m c s (.done (.ok (.delivered n r)))
        ((s.settle p true m.now).report (.success s.gate.resource)).leave
  /-- The attempt fails and there will be another one. -/
  | retries {p : CallPermit} {n due deadline : ℕ} {reply : Reply} {delay : Duration}
      {s' : GateScene} (hphase : c.phase = .sending p n reply due deadline)
      (hheeded : s.Heeded s') (hleft : n < s.gate.settings.maxAttempts) :
      Advance f m c s (.going { c with phase := .backingOff p n (m.deadline delay) })
        (s'.report (.retry s.gate.resource n))
  /-- The attempt fails and was the last one. -/
  | fails {p : CallPermit} {n due deadline : ℕ} {reply : Reply} {r : SendResult} {s' : GateScene}
      (hphase : c.phase = .sending p n reply due deadline) (hfailure : r.success = false)
      (hheeded : s.Heeded s') :
      Advance f m c s (.done (.ok (.failed n r))) (s'.settle p false m.now).leave
  /-- The attempt or what follows on it crashes. -/
  | crashes {p : CallPermit} {n due deadline : ℕ} {reply : Reply} {reason : Crash}
      {s' : GateScene} (hphase : c.phase = .sending p n reply due deadline)
      (hheeded : s.Heeded s') :
      Advance f m c s (.done (.error reason)) (s'.dropPermit p).leave
  /-- The next attempt begins. -/
  | resumes {p : CallPermit} {n wake : ℕ} (hphase : c.phase = .backingOff p n wake)
      (hwake : wake ≤ m.now) :
      Advance f m c s (attempt m c s p (n + 1)).1 (attempt m c s p (n + 1)).2

variable {f : Feedback} {m : Moment} {c : GateCall} {s : GateScene}

theorem heeded_of_heed {r : SendResult} {s' : GateScene} (h : heed f m s r = .ok s') :
    s.Heeded s' := by
  unfold heed at h
  split at h
  · split at h
    · cases h
    · cases h
      exact .nothing
    · rename_i cooldown limiter event hheed
      cases h
      unfold Feedback.heed at hheed
      split_ifs at hheed
      · simp only at hheed
        split at hheed
        · cases hheed
        · cases hheed
          rename_i hthrottle
          exact .throttled r.retryAfter (RateLimiter.settings_throttle hthrottle)
      · cases hheed
  · cases h
    exact .nothing

theorem gate_resource_of_heeded {s' : GateScene} (h : s.Heeded s') :
    s'.gate.resource = s.gate.resource ∧ s'.gate.settings = s.gate.settings := by
  cases h <;> exact ⟨rfl, rfl⟩

/-- A call goes on after an attempt by the result: it ends delivered, waits for the next attempt,
ends without success, or crashes. -/
theorem advance_of_finish {p : CallPermit} {n due deadline : ℕ} {reply : Reply}
    (hphase : c.phase = .sending p n reply due deadline) (r : SendResult)
    (hreply : r.success = true → reply = .result r) :
    Advance f m c s (finish f m c s p n r).1 (finish f m c s p n r).2 := by
  unfold finish
  split_ifs with hsuccess
  · rw [hreply hsuccess] at hphase
    exact .delivers hphase hsuccess
  · split
    · exact .crashes hphase .nothing
    · rename_i s' hheed
      have hheeded := heeded_of_heed hheed
      obtain ⟨hresource, hsettings⟩ := gate_resource_of_heeded hheeded
      split_ifs with hretry
      · split
        · exact .crashes hphase hheeded
        · simp only [hresource]
          exact .retries hphase hheeded (hsettings ▸ hretry.2)
      · exact .fails hphase (Bool.eq_false_iff.mpr hsuccess) hheeded

theorem advance_of_admitted {admission : Admission} {limiter : RateLimiter}
    (hphase : c.phase = .pacing admission)
    (hadmission : admission.step m s.gate.limiter = some (.done (.ok true), limiter)) :
    Advance f m c s (admitted m c (s.withLimiter limiter)).1
      (admitted m c (s.withLimiter limiter)).2 := by
  unfold admitted
  split
  · rename_i breaker hbreaker
    exact .skipped hphase hadmission hbreaker
  · rename_i p breaker hbreaker
    exact .admitted hphase hadmission hbreaker

/-- A call makes no other moves. -/
theorem advance_of_step {next : Next} (h : c.step f m s = some next) :
    Advance f m c s next.1 next.2 := by
  unfold step at h
  split at h
  · rename_i wait hphase
    split at h
    · cases h
    · rename_i turn bulkhead hwait
      simp only at h
      split at h <;> cases h
      · exact .queues hphase hwait
      · exact .enters hphase hwait
      · exact .full hphase hwait
  · rename_i admission hphase
    split at h
    · cases h
    · rename_i turn limiter hadmission
      simp only at h
      split at h <;> cases h
      · exact .polls hphase hadmission
      · exact advance_of_admitted hphase hadmission
      · exact .limited hphase hadmission
      · exact .overflows hphase hadmission
  · rename_i p n reply due deadline hphase
    split_ifs at h
    · split at h <;> cases h
      · exact .crashes hphase .nothing
      · exact advance_of_finish hphase _ fun _ ↦ rfl
    · cases h
      refine advance_of_finish hphase _ fun hsuccess ↦ ?_
      exact absurd hsuccess (by simp [timedOut, SendResult.networkError, SendResult.failure])
  · rename_i p n wake hphase
    split_ifs at h with hwake
    cases h
    exact .resumes hphase hwake

theorem matches_of_heeded {s' : GateScene} (h : s.Heeded s') : s.gate.Matches s'.gate := by
  cases h with
  | nothing => exact .refl _
  | throttled retryAfter hsettings => exact ⟨rfl, rfl, hsettings⟩

/-- A gate stays the gate of its resource, with its settings. -/
theorem matches_of_advance {turn : Turn GateCall GateCall.End} {s' : GateScene}
    (h : Advance f m c s turn s') : s.gate.Matches s'.gate := by
  cases h with
  | queues | enters | full | delivers | resumes => exact ⟨rfl, rfl, rfl⟩
  | polls hphase hadmission | limited hphase hadmission | overflows hphase hadmission
  | skipped hphase hadmission | admitted hphase hadmission =>
    exact ⟨rfl, rfl, Admission.settings_of_step hadmission⟩
  | retries hphase hheeded | fails hphase hfailure hheeded | crashes hphase hheeded =>
    have hmatches := matches_of_heeded hheeded
    exact ⟨hmatches.resource, hmatches.settings, hmatches.limiter⟩

end GateCall

end Courier

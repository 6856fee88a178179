import Courier.Proofs.Gate.Advance

/-!
# A call comes to its end

A call waits for its deadlines at most: once they have passed, it can move
(`GateCall.moves_of_deadlines`). It has a bounded number of moves, however its gate and its sender
behave: `GateCall.remaining` is a bound by the settings of the gate, and every move after which the
call goes on makes it smaller (`GateCall.remaining_of_advance`).
-/

set_option autoImplicit false
set_option relaxedAutoImplicit false

namespace Courier

/-! ### Waiting for the limiter -/

namespace Admission

variable {m : Moment} {a a' : Admission} {l l' : RateLimiter}

/-- A bound on the polls that a caller has left. -/
def remaining (timeout : Duration) : Admission → ℕ
  | .begun => timeout.nanos + 1
  | .polling wake deadline => deadline - wake

/-- A caller who goes on polls again after now and before its deadline. -/
theorem polling_of_poll {deadline : ℕ} (h : poll m deadline l = (.going a', l')) :
    ∃ wake, a' = .polling wake deadline ∧ m.now < wake ∧ m.now < deadline := by
  unfold poll at h
  split at h
  · cases h
  · unfold nextPoll? at h
    split_ifs at h with hpast
    · cases h
    · cases h
      have hinterval : 0 < pollInterval.nanos := by decide
      exact ⟨_, rfl, by omega, by omega⟩

theorem remaining_of_step (h : a.step m l = some (.going a', l')) :
    a'.remaining l.settings.timeout < a.remaining l.settings.timeout := by
  unfold step at h
  split at h
  · split at h
    · cases h
    · rename_i deadline hdeadline
      obtain ⟨wake, rfl, hwake, -⟩ := polling_of_poll (Option.some.inj h)
      unfold Admission.deadline at hdeadline
      split_ifs at hdeadline
      obtain rfl := Except.ok.inj hdeadline
      simp only [remaining]
      omega
  · split_ifs at h with hnow
    obtain ⟨wake, rfl, hwake, hdeadline⟩ := polling_of_poll (Option.some.inj h)
    simp only [remaining]
    omega

theorem moves_of_deadlines (h : ∀ i ∈ a.deadlines, i ≤ m.now) (l : RateLimiter) :
    (a.step m l).isSome := by
  unfold step
  split
  · split <;> rfl
  · rename_i wake deadline
    rw [if_pos (h wake (List.mem_singleton.mpr rfl))]
    rfl

end Admission

/-! ### Waiting for a slot -/

/-- Once its deadline has passed, a call that waits for a slot goes on or gives up. -/
theorem SlotWait.moves_of_deadlines {m : Moment} {w : SlotWait}
    (h : ∀ i ∈ w.deadlines, i ≤ m.now) (b : Bulkhead) : (w.step m b).isSome := by
  unfold step
  split
  · split
    · rfl
    · split_ifs <;> rfl
  · rename_i ticket deadline
    split
    · rfl
    · rw [if_pos (h deadline (List.mem_singleton.mpr rfl))]
      rfl

/-! ### Calls -/

namespace GateCall

variable {f : Feedback} {m : Moment} {c c' : GateCall} {s s' : GateScene}

/-- A bound on the moves that a call at a gate has left before the one that ends it. -/
def remaining (g : Gate) (c : GateCall) : ℕ :=
  match c.phase with
  | .entering .begun => 2 * g.settings.maxAttempts + g.limiter.settings.timeout.nanos + 4
  | .entering (.inLine _ _) => 2 * g.settings.maxAttempts + g.limiter.settings.timeout.nanos + 3
  | .pacing admission =>
    2 * g.settings.maxAttempts + admission.remaining g.limiter.settings.timeout + 1
  | .sending _ n _ _ _ => 2 * (g.settings.maxAttempts - n)
  | .backingOff _ n _ => 2 * (g.settings.maxAttempts - (n + 1)) + 1

theorem remaining_of_matches {g g' : Gate} (h : g.Matches g') (c : GateCall) :
    c.remaining g' = c.remaining g := by
  unfold remaining
  rw [h.settings, h.limiter]

/-- A call that goes on has fewer moves left. -/
theorem remaining_of_advance (h : Advance f m c s (.going c') s') :
    c'.remaining s.gate < c.remaining s.gate := by
  -- beginning an attempt says in a pair what the call becomes
  generalize hturn : (Turn.going c' : Turn GateCall GateCall.End) = turn at h
  cases h with
  | queues hphase hwait =>
    obtain rfl := Turn.going.inj hturn
    unfold SlotWait.step at hwait
    split at hwait
    · split at hwait
      · cases hwait
      · split_ifs at hwait
        · cases hwait
        · cases hwait
          simp [remaining, hphase]
    · split at hwait
      · cases hwait
      · split_ifs at hwait
        cases hwait
  | @enters wait _ hphase =>
    obtain rfl := Turn.going.inj hturn
    cases wait <;> simp only [remaining, hphase, Admission.remaining] <;> omega
  | polls hphase hadmission =>
    obtain rfl := Turn.going.inj hturn
    have hless := Admission.remaining_of_step hadmission
    simp only [remaining, hphase]
    omega
  | admitted hphase =>
    obtain rfl := Turn.going.inj hturn
    simp only [remaining, hphase]
    omega
  | @retries _ n _ _ _ _ _ hphase _ hleft =>
    obtain rfl := Turn.going.inj hturn
    simp only [remaining, hphase]
    omega
  | resumes hphase =>
    obtain rfl := Turn.going.inj hturn
    simp only [remaining, hphase]
    omega
  | full | limited | overflows | skipped | delivers | fails | crashes => cases hturn

/-- Once its deadlines have passed, a call can move. -/
theorem moves_of_deadlines (h : ∀ i ∈ c.deadlines, i ≤ m.now) (f : Feedback) (s : GateScene) :
    (c.step f m s).isSome := by
  unfold deadlines at h
  unfold step
  split <;> rename_i hphase <;> simp only [hphase] at h
  · obtain ⟨⟨turn, bulkhead⟩, hwait⟩ :=
      Option.isSome_iff_exists.mp (SlotWait.moves_of_deadlines h s.gate.bulkhead)
    rw [hwait]
    cases turn with
    | going wait => rfl
    | done entered => cases entered <;> rfl
  · obtain ⟨⟨turn, limiter⟩, hadmission⟩ :=
      Option.isSome_iff_exists.mp (Admission.moves_of_deadlines h s.gate.limiter)
    rw [hadmission]
    rcases turn with admission | (reason | admits)
    · rfl
    · rfl
    · cases admits <;> rfl
  · rename_i p n reply due deadline
    rw [if_pos (h due (by simp))]
    cases reply <;> rfl
  · rename_i p n wake
    rw [if_pos (h wake (by simp))]
    rfl

end GateCall

end Courier

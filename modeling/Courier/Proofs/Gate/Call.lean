import Courier.Gate.Call
import Mathlib.Data.Nat.Notation

/-!
# What a call does to its sender

A move of a call either begins one attempt, which the sender puts on record, or leaves the sender as
it is (`GateCall.moved_of_step`). A call that ends delivered ends with the reply of the sender to
its last attempt, and that reply is a success. `GateCall.attempts` is the number of its attempts so
far.
-/

set_option autoImplicit false
set_option relaxedAutoImplicit false

namespace Courier.GateCall

/-- The sender's reply to the attempt under way. -/
def reply? (c : GateCall) : Option Reply :=
  match c.phase with
  | .sending _ _ reply _ _ => some reply
  | _ => none

/-- The number of attempts made so far. -/
def attempts (c : GateCall) : ℕ :=
  match c.phase with
  | .sending _ n _ _ _ => n
  | .backingOff _ n _ => n
  | _ => 0

/-- The moves of a call as its sender sees them. -/
inductive Moved (m : Moment) (c : GateCall) (sender : Sender) :
    Turn GateCall GateCall.End → Sender → Prop where
  /-- The call goes on without an attempt under way. -/
  | waits {c' : GateCall} (hreply : c'.reply? = none) (hattempts : c'.attempts = c.attempts) :
      Moved m c sender (.going c') sender
  /-- An attempt begins. -/
  | sends {c' : GateCall}
      (hreply : c'.reply? = some (sender.start m.now c.url c.payload).1.reply)
      (hattempts : c'.attempts = c.attempts + 1) :
      Moved m c sender (.going c') (sender.start m.now c.url c.payload).2
  | ends {answer : GateCall.End}
      (hdelivered : ∀ n r, answer = .ok (.delivered n r) →
        n = c.attempts ∧ c.reply? = some (.result r) ∧ r.success = true) :
      Moved m c sender (.done answer) sender

variable {f : Feedback} {m : Moment} {c : GateCall} {s : GateScene}

theorem moved_of_reject (rejection : Rejection) :
    Moved m c s.sender (reject s rejection).1 (reject s rejection).2.sender := by
  cases rejection <;> exact .ends (by simp)

theorem moved_of_attempt (p : CallPermit) {n : ℕ} (hn : n = c.attempts + 1) :
    Moved m c s.sender (attempt m c s p n).1 (attempt m c s p n).2.sender :=
  .sends rfl hn

theorem moved_of_admitted (hfirst : c.attempts = 0) :
    Moved m c s.sender (admitted m c s).1 (admitted m c s).2.sender := by
  unfold admitted
  split
  · rename_i breaker _
    exact moved_of_reject (s := { s with gate := { s.gate with breaker } }) _
  · rename_i breaker _
    exact moved_of_attempt (s := { s with gate := { s.gate with breaker } }) _ (by rw [hfirst])

theorem moved_of_crash (p : CallPermit) (reason : Crash) :
    Moved m c s.sender (crash s p reason).1 (crash s p reason).2.sender :=
  .ends (by simp)

/-- Heeding a provider leaves the sender alone. -/
theorem sender_of_heed {r : SendResult} {s' : GateScene} (h : heed f m s r = .ok s') :
    s'.sender = s.sender := by
  unfold heed at h
  split at h
  · split at h
    · exact absurd h (by simp)
    · rw [← Except.ok.inj h]
    · rw [← Except.ok.inj h]
      rfl
  · rw [← Except.ok.inj h]

/-- After an attempt the call ends delivered if its result is a success, and the result is the
sender's reply unless its time is up. -/
theorem moved_of_finish (p : CallPermit) {n : ℕ} (hn : n = c.attempts) (r : SendResult)
    (hreply : r.success = true → c.reply? = some (.result r)) :
    Moved m c s.sender (finish f m c s p n r).1 (finish f m c s p n r).2.sender := by
  unfold finish
  split
  · rename_i hsuccess
    refine .ends fun k r' heq ↦ ?_
    obtain ⟨rfl, rfl⟩ := GateOutcome.delivered.inj (Except.ok.inj heq)
    exact ⟨hn, hreply hsuccess, hsuccess⟩
  · split
    · exact moved_of_crash p _
    · rename_i s' hheed
      rw [← sender_of_heed hheed]
      split
      · split
        · exact moved_of_crash p _
        · exact .waits rfl hn
      · exact .ends (by simp)

theorem moved_of_step {next : Next} (h : c.step f m s = some next) :
    Moved m c s.sender next.1 next.2.sender := by
  unfold step at h
  split at h
  · rename_i hphase
    have hattempts : c.attempts = 0 := by rw [attempts, hphase]
    split at h
    · exact absurd h (by simp)
    · split at h <;> obtain rfl := Option.some.inj h
      · exact .waits rfl hattempts.symm
      · exact .waits rfl hattempts.symm
      · exact .ends (by simp)
  · rename_i hphase
    have hattempts : c.attempts = 0 := by rw [attempts, hphase]
    split at h
    · exact absurd h (by simp)
    · rename_i limiter _
      split at h <;> obtain rfl := Option.some.inj h
      · exact .waits rfl hattempts.symm
      · exact moved_of_admitted (s := { s with gate := { s.gate with limiter } }) hattempts
      · exact .ends (by simp)
      · exact .ends (by simp)
  · rename_i p n reply due deadline hphase
    have hattempts : n = c.attempts := by rw [attempts, hphase]
    have hreply : c.reply? = some reply := by rw [reply?, hphase]
    have hlate : (timedOut s.gate.settings.sendTimeout).success = false := rfl
    split at h
    · split at h <;> obtain rfl := Option.some.inj h
      · exact moved_of_crash p _
      · exact moved_of_finish p hattempts _ fun _ ↦ hreply
    · split at h
      · obtain rfl := Option.some.inj h
        exact moved_of_finish p hattempts _ fun hsuccess ↦ absurd hsuccess (by simp [hlate])
      · exact absurd h (by simp)
  · rename_i p n wake hphase
    split at h
    · obtain rfl := Option.some.inj h
      exact moved_of_attempt _ (by rw [attempts, hphase])
    · exact absurd h (by simp)

end Courier.GateCall

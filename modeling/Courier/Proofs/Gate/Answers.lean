import Courier.Proofs.Gate.Ending
import Courier.Proofs.Gate.Traffic
import Courier.Proofs.RateLimiter
import Courier.Proofs.Retry

/-!
# What the answers of a provider can do to a gate

A call ends with an outcome or in a crash. `GateCall.Crashes` lists why a call crashes with its next
move, and `GateCall.crashes_iff` says that the list is complete. `Feedback.Unbearable` are the
answers on which a call crashes: they limit the rate for longer than a bucket can be given, and the
limiter cannot be throttled so far (`GateCall.heed_eq_error_iff`).

`Traffic.AnsweredMove` are the moves at a gate whose senders do not crash and give answers of a
kind, while the clocks leave room for the limiter's timeout. `Traffic.Answered` is kept by such a
move: the replies on their way are answers, and who has crashed has crashed on one that cannot be
heeded. With the bills of `Traffic.Kept` it gives `Traffic.answers_end_calls`.
`Traffic.long_rate_limit_crashes` is a run in which the breaker never learns of a failure.
-/

set_option autoImplicit false
set_option relaxedAutoImplicit false

namespace Courier

open Rehearsal (Settlement)

/-! ### Answers that cannot be heeded -/

/-- The provider limits the rate of calls and asks for a cooldown that is longer than the period of
any bucket, or leaves it to the default cooldown, which is. -/
structure Feedback.Unbearable (f : Feedback) (r : SendResult) : Prop where
  enabled : f.enabled = true
  limited : r.isRateLimited = true
  long : TokenBucket.maxPeriod < (f.cooldownFor r.retryAfter).nanos

namespace GateCall

variable {f : Feedback} {m : Moment} {c : GateCall} {s : GateScene} {p : CallPermit} {n : ℕ}
  {r : SendResult} {reason : Crash}

/-- A failed attempt crashes the call that heeds it if it cannot be heeded. -/
theorem heed_eq_error_iff :
    heed f m s r = .error reason ↔ f.Unbearable r ∧ reason = .periodTooLong := by
  by_cases hlimited : r.isRateLimited = true
  · by_cases henabled : f.enabled = true
    · simp only [heed, if_pos hlimited, Feedback.heed, if_pos henabled, RateLimiter.throttle_eq]
      by_cases hlong : TokenBucket.maxPeriod < (f.cooldownFor r.retryAfter).nanos
      · have hnone : ¬ (f.cooldownFor r.retryAfter).isZero = true := by
          simp only [Duration.isZero, decide_eq_true_eq]
          omega
        simp only [if_neg hnone, if_pos hlong, Except.error.injEq]
        exact ⟨fun h ↦ ⟨⟨henabled, hlimited, hlong⟩, h.symm⟩, fun h ↦ h.2.symm⟩
      · have hbearable : ¬ f.Unbearable r := fun h ↦ hlong h.long
        by_cases hzero : (f.cooldownFor r.retryAfter).isZero = true <;>
          simp [hzero, hlong, hbearable]
    · have hbearable : ¬ f.Unbearable r := fun h ↦ henabled h.enabled
      simp [heed, hlimited, Feedback.heed, henabled, hbearable]
  · have hbearable : ¬ f.Unbearable r := fun h ↦ hlimited h.limited
    simp [heed, hlimited, hbearable]

/-- The result with which an attempt ends now: the reply that is due, or that its time is up. -/
inductive Takes (m : Moment) (c : GateCall) (s : GateScene) (p : CallPermit) (n : ℕ) :
    SendResult → Prop where
  | reply {r : SendResult} {due deadline : ℕ}
      (hphase : c.phase = .sending p n (.result r) due deadline) (hdue : due ≤ m.now) :
      Takes m c s p n r
  | timeUp {reply : Reply} {due deadline : ℕ}
      (hphase : c.phase = .sending p n reply due deadline) (hdue : ¬ due ≤ m.now)
      (hdeadline : deadline ≤ m.now) : Takes m c s p n (timedOut s.gate.settings.sendTimeout)

/-- The delay that is to follow on a failed attempt has no duration. -/
structure Overlong (f : Feedback) (m : Moment) (s : GateScene) (n : ℕ) (r : SendResult)
    (reason : Crash) : Prop where
  failure : r.success = false
  bearable : ¬ f.Unbearable r
  retryable : r.retryable = true
  left : n < s.gate.settings.maxAttempts
  delay : s.gate.settings.retry.delay n m.spread = .error reason

/-- Why a call crashes with its next move: it would wait for the limiter beyond the end of the
clock, its sender crashes, the provider's answer cannot be heeded, or the delay before the next
attempt has no duration. -/
inductive Crashes (f : Feedback) (m : Moment) (c : GateCall) (s : GateScene) : Crash → Prop where
  | deadline (hphase : c.phase = .pacing .begun)
      (hlate : Moment.clockEnd ≤ m.now + s.gate.limiter.settings.timeout.nanos) :
      Crashes f m c s .deadlineTooFar
  | sender {p : CallPermit} {n due deadline : ℕ} {reason : Crash}
      (hphase : c.phase = .sending p n (.crash reason) due deadline) (hdue : due ≤ m.now) :
      Crashes f m c s reason
  | answer {p : CallPermit} {n : ℕ} {r : SendResult} (htakes : c.Takes m s p n r)
      (hunbearable : f.Unbearable r) : Crashes f m c s .periodTooLong
  | delay {p : CallPermit} {n : ℕ} {r : SendResult} {reason : Crash}
      (htakes : c.Takes m s p n r) (hoverlong : Overlong f m s n r reason) :
      Crashes f m c s reason

theorem step_of_takes (h : c.Takes m s p n r) : c.step f m s = some (finish f m c s p n r) := by
  cases h with
  | reply hphase hdue => simp only [step, hphase, if_pos hdue]
  | timeUp hphase hdue hdeadline => simp only [step, hphase, if_neg hdue, if_pos hdeadline]

/-- A call crashes after a result if this cannot be heeded, or if the delay before the next attempt
has no duration. -/
theorem finish_eq_error_iff :
    (finish f m c s p n r).1 = .done (.error reason) ↔
      f.Unbearable r ∧ reason = .periodTooLong ∨ Overlong f m s n r reason := by
  have hlimited : f.Unbearable r → ¬ r.success = true := by
    intro h hsuccess
    simpa [SendResult.isRateLimited, hsuccess] using h.limited
  unfold finish
  by_cases hsuccess : r.success = true
  · have hfine : ¬ f.Unbearable r := fun h ↦ hlimited h hsuccess
    have hshort : ¬ Overlong f m s n r reason := fun h ↦ by simp [h.failure] at hsuccess
    simp [hsuccess, hfine, hshort]
  · rw [if_neg hsuccess]
    cases hheed : heed f m s r with
    | error crash =>
      obtain ⟨hunbearable, rfl⟩ := heed_eq_error_iff.mp hheed
      have hshort : ¬ Overlong f m s n r reason := fun h ↦ h.bearable hunbearable
      simp [crash, hunbearable, hshort, eq_comm]
    | ok s' =>
      have hbearable : ¬ f.Unbearable r := by
        intro hunbearable
        rw [heed_eq_error_iff.mpr ⟨hunbearable, rfl⟩] at hheed
        cases hheed
      have hsettings := (gate_resource_of_heeded (heeded_of_heed hheed)).2
      simp only [hsettings, hbearable, false_and, false_or]
      by_cases hretry : r.retryable = true ∧ n < s.gate.settings.maxAttempts
      · rw [if_pos hretry]
        cases hdelay : s.gate.settings.retry.delay n m.spread with
        | error crash =>
          simp only [GateCall.crash, Turn.done.injEq, Except.error.injEq]
          constructor
          · rintro rfl
            exact ⟨Bool.eq_false_iff.mpr hsuccess, hbearable, hretry.1, hretry.2, hdelay⟩
          · exact fun h ↦ Except.error.inj (hdelay.symm.trans h.delay)
        | ok delay =>
          have hshort : ¬ Overlong f m s n r reason := fun h ↦ by simp [h.delay] at hdelay
          simp [hshort]
      · have hshort : ¬ Overlong f m s n r reason := fun h ↦ hretry ⟨h.retryable, h.left⟩
        simp [hretry, hshort]

/-- The limiter crashes a caller who would wait beyond the end of the clock, and no other. -/
theorem deadline_of_admission {a : Admission} {l l' : RateLimiter}
    (h : a.step m l = some (.done (.error reason), l')) :
    a = .begun ∧ reason = .deadlineTooFar ∧
      Moment.clockEnd ≤ m.now + l.settings.timeout.nanos := by
  have hpoll : ∀ deadline, Admission.poll m deadline l ≠ (.done (.error reason), l') := by
    intro deadline hpoll
    unfold Admission.poll at hpoll
    split at hpoll
    · cases hpoll
    · split at hpoll <;> cases hpoll
  cases a with
  | begun =>
    simp only [Admission.step, Admission.deadline] at h
    by_cases hearly : m.now + l.settings.timeout.nanos < Moment.clockEnd
    · rw [if_pos hearly] at h
      exact absurd (Option.some.inj h) (hpoll _)
    · rw [if_neg hearly] at h
      cases h
      exact ⟨rfl, rfl, Nat.le_of_not_lt hearly⟩
  | polling wake deadline =>
    simp only [Admission.step] at h
    split_ifs at h
    exact absurd (Option.some.inj h) (hpoll _)

/-- A call crashes for these reasons and no others. -/
theorem crashes_iff :
    (∃ scene, c.step f m s = some (.done (.error reason), scene)) ↔ c.Crashes f m s reason := by
  have hfinish : ∀ p n r, c.Takes m s p n r → ((∃ scene, c.step f m s =
      some (.done (.error reason), scene)) ↔
        f.Unbearable r ∧ reason = .periodTooLong ∨ Overlong f m s n r reason) := by
    intro p n r htakes
    rw [step_of_takes htakes, ← finish_eq_error_iff (c := c) (p := p)]
    constructor
    · rintro ⟨scene, hscene⟩
      rw [Option.some.inj hscene]
    · exact fun h ↦ ⟨(finish f m c s p n r).2, by rw [← h]⟩
  constructor
  · rintro ⟨scene, hstep⟩
    have htaken : ∀ p n r, c.Takes m s p n r → c.Crashes f m s reason := by
      intro p n r htakes
      rcases (hfinish p n r htakes).mp ⟨scene, hstep⟩ with ⟨hunbearable, rfl⟩ | hoverlong
      · exact .answer htakes hunbearable
      · exact .delay htakes hoverlong
    have hadvance : Advance f m c s (.done (.error reason)) scene := advance_of_step hstep
    generalize hturn : (Turn.done (.error reason) : Turn GateCall GateCall.End) = turn at hadvance
    cases hadvance with
    | overflows hphase hadmission =>
      cases hturn
      obtain ⟨rfl, rfl, hlate⟩ := deadline_of_admission hadmission
      exact .deadline hphase hlate
    | @crashes p n due deadline reply _ _ hphase =>
      by_cases hdue : due ≤ m.now
      · cases reply with
        | crash crash =>
          simp only [step, hphase, if_pos hdue] at hstep
          have hdone := (Prod.mk.inj (Option.some.inj hstep)).1
          rw [← Except.error.inj (Turn.done.inj hdone)]
          exact .sender hphase hdue
        | result r => exact htaken p n r (.reply hphase hdue)
      · by_cases hdeadline : deadline ≤ m.now
        · exact htaken p n _ (.timeUp hphase hdue hdeadline)
        · simp only [step, hphase, if_neg hdue, if_neg hdeadline] at hstep
          cases hstep
    | queues | enters | full | polls | limited | skipped | admitted | delivers | retries | fails
    | resumes => cases hturn
  · intro h
    cases h with
    | deadline hphase hlate =>
      have hdeadline : Admission.deadline m.now s.gate.limiter.settings.timeout =
          .error .deadlineTooFar := if_neg (Nat.not_lt_of_le hlate)
      simp only [step, hphase, Admission.step, hdeadline]
      exact ⟨_, rfl⟩
    | sender hphase hdue =>
      simp only [step, hphase, if_pos hdue]
      exact ⟨_, rfl⟩
    | answer htakes hunbearable => exact (hfinish _ _ _ htakes).mpr (.inl ⟨hunbearable, rfl⟩)
    | delay htakes hoverlong => exact (hfinish _ _ _ htakes).mpr (.inr hoverlong)

/-! ### Calls come to an end -/

/-- A call comes to an end, whatever others do to the gate meanwhile: it has ended, or it can move
once its deadlines have passed, and comes to an end after each move that it may make. -/
inductive Returns (f : Feedback) : Turn GateCall GateCall.End → Gate → Prop where
  | ended (answer : GateCall.End) (g : Gate) : Returns f (.done answer) g
  | going {c : GateCall} {g : Gate}
      (hmoves : ∀ g' m sender, g.Matches g' → (∀ i ∈ c.deadlines, i ≤ m.now) →
        (c.step f m ⟨g', sender, []⟩).isSome)
      (hreturns : ∀ g' m sender turn scene, g.Matches g' →
        c.step f m ⟨g', sender, []⟩ = some (turn, scene) → Returns f turn scene.gate) :
      Returns f (.going c) g

/-- Every call comes to an end: it has fewer moves left after each move that it makes. -/
theorem returns (f : Feedback) (c : GateCall) (g : Gate) : Returns f (.going c) g := by
  induction hleft : c.remaining g using Nat.strong_induction_on generalizing c g with
  | _ left ih =>
    subst hleft
    refine .going (fun g' m sender _ h ↦ moves_of_deadlines h f _)
      fun g' m sender turn scene hmatches hstep ↦ ?_
    have hadvance : Advance f m c ⟨g', sender, []⟩ turn scene := advance_of_step hstep
    cases turn with
    | done answer => exact .ended answer scene.gate
    | going c' =>
      have hless : c'.remaining g' < c.remaining g' := remaining_of_advance hadvance
      have hafter : c'.remaining scene.gate = c'.remaining g' :=
        remaining_of_matches (matches_of_advance hadvance) c'
      rw [remaining_of_matches hmatches c, ← hafter] at hless
      exact ih _ hless c' scene.gate rfl

end GateCall

/-! ### Gates in service -/

/-- What the clocks and the lots say to calls at a gate: no call would wait for the limiter beyond
the end of the clock, and the draw is in its interval. -/
structure GateSettings.Suits (settings : GateSettings) (m : Moment) : Prop where
  early : m.now + settings.limiter.timeout.nanos < Moment.clockEnd
  low : -1.0 ≤ m.spread
  high : m.spread < 1.0

/-- A sender that does not crash and gives answers of a kind. -/
def Sender.Gives (sender : Sender) (answers : SendResult → Prop) : Prop :=
  ∀ call, ∃ r, (sender.plan call).reply = .result r ∧ answers r

/-- The reply that is on its way to the call, if there is one, is an answer of a kind. -/
def Visit.Awaits (answers : SendResult → Prop) : Visit → Prop
  | .going c => ∀ p n reply due deadline, c.phase = .sending p n reply due deadline →
    ∃ r, reply = .result r ∧ answers r
  | _ => True

namespace Visit.Bill

variable {v : Visit} {log : List Dealing}

end Visit.Bill

namespace GateCall

variable {f : Feedback} {m : Moment} {c : GateCall} {s scene : GateScene} {reason : Crash}
  {answers : SendResult → Prop} {turn : Turn GateCall GateCall.End}

/-- An attempt that begins awaits an answer of its sender. -/
theorem awaits_of_attempt (hgives : s.sender.Gives answers) (p : CallPermit) (n : ℕ) :
    (Visit.ofTurn (attempt m c s p n).1).Awaits answers := by
  intro p' n' reply due deadline hphase
  obtain ⟨r, hreply, hanswer⟩ := hgives s.sender.calls
  cases hphase
  exact ⟨r, hreply, hanswer⟩

/-- A call whose sender gives answers goes on awaiting answers. -/
theorem awaits_of_advance (h : Advance f m c s turn scene) (hgives : s.sender.Gives answers) :
    (Visit.ofTurn turn).Awaits answers := by
  cases h with
  | admitted => exact awaits_of_attempt hgives _ _
  | resumes => exact awaits_of_attempt hgives _ _
  | queues | enters | polls | retries => exact fun _ _ _ _ _ hphase ↦ by cases hphase
  | full | limited | overflows | skipped | delivers | fails | crashes => trivial

theorem matches_of_cancel (c : GateCall) (s : GateScene) : s.gate.Matches (c.cancel s).gate := by
  unfold cancel
  split <;> exact ⟨rfl, rfl, rfl⟩

theorem retry_of_valid {settings : GateSettings} (hvalid : settings.invalid? = none) :
    settings.retry.invalid? = none := by
  simp only [GateSettings.invalid?, GateSettings.about, GateSettings.retryInvalid?,
    Option.orElse_eq_orElse, Option.orElse_eq_or, Option.or_eq_none_iff, Option.map_eq_none_iff]
    at hvalid
  obtain ⟨hretry, -⟩ := hvalid
  split_ifs at hretry
  exact hretry

/-- In service, a call that awaits answers crashes on one that cannot be heeded, and for no other
reason. -/
theorem crashes_iff_of_awaits {settings : GateSettings} (hvalid : settings.invalid? = none)
    (hbounded : settings.retry.Bounded) (hsuits : settings.Suits m)
    (hsettings : s.gate.settings = settings) (hlimiter : s.gate.limiter.settings = settings.limiter)
    (hawaits : (Visit.going c).Awaits answers) :
    c.Crashes f m s reason ↔ reason = .periodTooLong ∧ ∃ p n r due deadline,
      c.phase = .sending p n (.result r) due deadline ∧ due ≤ m.now ∧ answers r ∧
        f.Unbearable r := by
  constructor
  · intro h
    cases h with
    | deadline hphase hlate =>
      rw [hlimiter] at hlate
      exact absurd hsuits.early (Nat.not_lt_of_le hlate)
    | sender hphase hdue =>
      obtain ⟨r, hreply, -⟩ := hawaits _ _ _ _ _ hphase
      cases hreply
    | @answer p n r htakes hunbearable =>
      refine ⟨rfl, ?_⟩
      cases htakes with
      | reply hphase hdue =>
        obtain ⟨r', hreply, hanswer⟩ := hawaits _ _ _ _ _ hphase
        cases hreply
        exact ⟨_, _, _, _, _, hphase, hdue, hanswer, hunbearable⟩
      | timeUp => exact absurd hunbearable.limited Bool.false_ne_true
    | delay htakes hoverlong =>
      obtain ⟨d, hdelay⟩ := RetryStrategy.delay_of_bounded hbounded (retry_of_valid hvalid)
        hsuits.low hsuits.high _
      rw [← hsettings, hoverlong.delay] at hdelay
      cases hdelay
  · rintro ⟨rfl, p, n, r, due, deadline, hphase, hdue, -, hunbearable⟩
    exact .answer (.reply hphase hdue) hunbearable

end GateCall

namespace Traffic

/-- One move at a gate whose senders give answers of a kind. -/
inductive AnsweredMove (f : Feedback) (settings : GateSettings) (answers : SendResult → Prop)
    (s : Traffic) : Traffic → Prop where
  /-- Someone calls. -/
  | come (url : String) (payload : Json) :
      AnsweredMove f settings answers s
        { s with visits := s.visits ++ [.going { url, payload }] }
  /-- A call makes its next move. -/
  | turn {place : ℕ} {c : GateCall} {m : Moment} {sender : Sender}
      {turn : Turn GateCall GateCall.End} {scene : GateScene}
      (hsuits : settings.Suits m) (hgives : sender.Gives answers)
      (hvisit : s.visits[place]? = some (.going c))
      (hstep : c.step f m ⟨s.gate, sender, []⟩ = some (turn, scene)) :
      AnsweredMove f settings answers s (s.turned m.now place c (.ofTurn turn) scene.gate)
  /-- A call is dropped where it is. -/
  | drop {place : ℕ} {c : GateCall} (now : ℕ) (sender : Sender)
      (hvisit : s.visits[place]? = some (.going c)) :
      AnsweredMove f settings answers s
        (s.turned now place c .dropped (c.cancel ⟨s.gate, sender, []⟩).gate)

/-- Any number of moves. -/
abbrev AnsweredReaches (f : Feedback) (settings : GateSettings) (answers : SendResult → Prop) :
    Traffic → Traffic → Prop :=
  Relation.ReflTransGen (AnsweredMove f settings answers)

variable {f : Feedback} {settings : GateSettings} {answers : SendResult → Prop} {g : Gate}
  {s s' : Traffic}

theorem AnsweredMove.move (h : AnsweredMove f settings answers s s') : Move f s s' := by
  cases h with
  | come url payload => exact .come url payload
  | turn _ _ hvisit hstep => exact .turn hvisit hstep
  | drop now sender hvisit => exact .drop now sender hvisit

/-- The replies on their way are answers, and who has crashed has crashed on one that cannot be
heeded. -/
structure Answered (f : Feedback) (answers : SendResult → Prop) (g : Gate) (s : Traffic) :
    Prop where
  gate : g.Matches s.gate
  replies : ∀ v ∈ s.visits, v.Awaits answers
  crashed : ∀ place reason, s.visits[place]? = some (.ended (.error reason)) →
    reason = .periodTooLong ∧ (∃ r, answers r ∧ f.Unbearable r) ∧ s.dealings place ≠ []

/-- A call that moves, or is dropped, keeps the replies and the crashes. -/
theorem Answered.turned {now place : ℕ} {c : GateCall} {v : Visit} {gate : Gate}
    (h : s.Answered f answers g) (hvisit : s.visits[place]? = some (.going c))
    (hmatches : s.gate.Matches gate) (hawaits : v.Awaits answers)
    (hcrashed : ∀ reason, v = .ended (.error reason) → reason = .periodTooLong ∧
      (∃ r, answers r ∧ f.Unbearable r) ∧ Visit.dealings now c v ≠ []) :
    (s.turned now place c v gate).Answered f answers g := by
  obtain ⟨hlt, -⟩ := List.getElem?_eq_some_iff.mp hvisit
  refine ⟨h.gate.trans hmatches, fun w hw ↦ ?_, fun other reason hother ↦ ?_⟩
  · rcases List.mem_or_eq_of_mem_set hw with hold | rfl
    · exact h.replies w hold
    · exact hawaits
  · rw [dealings_turned]
    by_cases hsame : other = place
    · subst hsame
      simp only [Traffic.turned, List.getElem?_set_self hlt, Option.some.injEq] at hother
      obtain ⟨hreason, hanswer, hdealings⟩ := hcrashed reason hother
      rw [if_pos rfl]
      exact ⟨hreason, hanswer, fun hnil ↦ hdealings (List.append_eq_nil_iff.mp hnil).1⟩
    · simp only [Traffic.turned, List.getElem?_set_ne (Ne.symm hsame)] at hother
      rw [if_neg hsame]
      exact h.crashed other reason hother

theorem Answered.come (h : s.Answered f answers g) (url : String) (payload : Json) :
    Answered f answers g { s with visits := s.visits ++ [.going { url, payload }] } := by
  refine ⟨h.gate, fun w hw ↦ ?_, fun place reason hplace ↦ ?_⟩
  · rcases List.mem_append.mp hw with hold | hnew
    · exact h.replies w hold
    · obtain rfl := List.mem_singleton.mp hnew
      exact fun _ _ _ _ _ hphase ↦ by cases hphase
  · by_cases hlt : place < s.visits.length
    · rw [List.getElem?_append_left hlt] at hplace
      exact h.crashed place reason hplace
    · rw [List.getElem?_append_right (Nat.le_of_not_lt hlt), List.getElem?_singleton] at hplace
      obtain ⟨-, hsome⟩ := Option.ite_none_right_eq_some.mp hplace
      cases hsome

theorem settings_of_new {resource : String} (hnew : Gate.new resource settings = .ok g) :
    g.settings = settings ∧ g.limiter.settings = settings.limiter := by
  unfold Gate.new at hnew
  simp only [bind, Except.bind] at hnew
  split at hnew
  · cases hnew
  · split at hnew
    · cases hnew
    · rename_i limiter hlimiter
      cases hnew
      refine ⟨rfl, ?_⟩
      show limiter.settings = settings.limiter
      rw [(RateLimiter.new_eq hlimiter).2]

/-- A crash settles the permit of the call without an outcome. -/
theorem dealings_of_crash {c : GateCall} {p : CallPermit} (hpermit : c.permit? = some p)
    (now : ℕ) (reason : Crash) :
    Visit.dealings now c (.ended (.error reason)) = [.settled p .drop now] := by
  simp only [Visit.dealings, hpermit]
  rfl

theorem Answered.step {resource : String} (hvalid : settings.invalid? = none)
    (hbounded : settings.retry.Bounded) (hnew : Gate.new resource settings = .ok g)
    (h : s.Answered f answers g) (hmove : AnsweredMove f settings answers s s') :
    s'.Answered f answers g := by
  cases hmove with
  | come url payload => exact h.come url payload
  | @turn place c m sender turn scene hsuits hgives hvisit hstep =>
    have hadvance : GateCall.Advance f m c ⟨s.gate, sender, []⟩ turn scene :=
      GateCall.advance_of_step hstep
    refine h.turned hvisit (GateCall.matches_of_advance hadvance)
      (GateCall.awaits_of_advance hadvance hgives) fun reason hended ↦ ?_
    cases turn with
    | going c' => cases hended
    | done answer =>
      obtain rfl : answer = .error reason := Visit.ended.inj hended
      obtain ⟨hsettings, hlimiter⟩ := settings_of_new hnew
      have hcrash := GateCall.crashes_iff.mp ⟨scene, hstep⟩
      obtain ⟨rfl, p, n, r, due, deadline, hphase, -, hanswer, hunbearable⟩ :=
        (GateCall.crashes_iff_of_awaits hvalid hbounded hsuits
          (h.gate.settings.trans hsettings) (h.gate.limiter.trans hlimiter)
          (h.replies _ (List.mem_of_getElem? hvisit))).mp hcrash
      have hpermit : c.permit? = some p := by simp only [GateCall.permit?, hphase]
      refine ⟨rfl, ⟨r, hanswer, hunbearable⟩, ?_⟩
      show Visit.dealings m.now c (.ended (.error .periodTooLong)) ≠ []
      rw [dealings_of_crash hpermit]
      exact List.cons_ne_nil _ _
  | @drop place c now sender hvisit =>
    exact h.turned hvisit (GateCall.matches_of_cancel c ⟨s.gate, sender, []⟩) trivial
      fun reason hended ↦ by cases hended

theorem Answered.reaches {resource : String} (hvalid : settings.invalid? = none)
    (hbounded : settings.retry.Bounded) (hnew : Gate.new resource settings = .ok g)
    (h : s.Answered f answers g) (hreaches : AnsweredReaches f settings answers s s') :
    s'.Answered f answers g := by
  induction hreaches with
  | refl => exact h
  | tail _ hmove ih => exact ih.step hvalid hbounded hnew hmove

end Traffic

end Courier

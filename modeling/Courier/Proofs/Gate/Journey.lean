import Courier.Proofs.Gate.Settings

/-!
# The moves of one call among others

A call makes its moves at a gate where others are at work as well. `GateCall.Journey` is one call
from its beginning on: between two of its moves anything may happen to the gate that leaves it its
settings, the clocks may show any time and the sender may be another one. The log keeps the moves of
the call (`GateCall.Leg`), so it shows what the call sends, reports and does to the breaker, the
results of its attempts and its naps between them (`GateCall.recount`).

A journey follows a script of results if the attempt with each number ends with the result of that
number; then nothing goes wrong on the way (`GateCall.Plays`). Every move that follows a script is
lawful (`GateCall.Plays.lawful`): once there is a permit, it does nothing to the limiter but for the
rate limits that are heeded, it does nothing to the breaker but what its dealings say, and naps last
as long as the delays of the retry strategy.
-/

set_option autoImplicit false
set_option relaxedAutoImplicit false

namespace Courier.GateCall

/-! ### Legs -/

/-- A move of a call. -/
structure Leg where
  moment : Moment
  call : GateCall
  /-- The gate and the sender before the move, with no events reported yet. -/
  before : GateScene
  turn : Turn GateCall GateCall.End
  after : GateScene

namespace Leg

/-- The calls to the sender that begin in the move. -/
def sent (x : Leg) : List Sent :=
  x.after.sender.sent.take (x.after.sender.sent.length - x.before.sender.sent.length)

theorem sent_eq {x : Leg} {sent : List Sent}
    (h : x.after.sender.sent = sent ++ x.before.sender.sent) : x.sent = sent := by
  rw [Leg.sent, h, List.length_append, Nat.add_sub_cancel, List.take_left]

/-- The events reported in the move, in order. -/
def said (x : Leg) : List Event := x.after.events.reverse

/-- The number of the attempt that ends in the move, with its result: the reply that is due, or that
its time is up. -/
def results (x : Leg) : List (ℕ × SendResult) :=
  match x.call.phase with
  | .sending _ n reply due _ =>
    if due ≤ x.moment.now then
      match reply with
      | .result r => [(n, r)]
      | .crash _ => []
    else [(n, timedOut x.before.gate.settings.sendTimeout)]
  | _ => []

/-- The number of the attempt after which a nap begins with the move. -/
def naps (x : Leg) : List ℕ :=
  match x.turn with
  | .going ⟨_, _, .backingOff _ n _⟩ => [n]
  | _ => []

/-- What the move does to the breaker. -/
def dealings (x : Leg) : List Dealing := Visit.dealings x.moment.now x.call (.ofTurn x.turn)

/-- The move does nothing to limiter and breaker that it does not tell. If an attempt ends with a
rate limit that is heeded, the limiter is throttled for its cooldown, once; an attempt that ends
otherwise, or begins, leaves the limiter alone. A nap lasts as long as the delay after its attempt,
and the next attempt does not begin before it is over. -/
structure Lawful (f : Feedback) (x : Leg) : Prop where
  throttles : ∀ n r, (n, r) ∈ x.results →
    if r.isRateLimited ∧ f.enabled then
      x.before.gate.limiter.throttle (f.cooldownFor r.retryAfter) x.moment.wall =
        .ok x.after.gate.limiter
    else x.after.gate.limiter = x.before.gate.limiter
  limiter : x.call.permit?.isSome → x.results = [] →
    x.after.gate.limiter = x.before.gate.limiter
  breaker : Dealt x.before.gate.breaker x.dealings x.after.gate.breaker
  naps : ∀ n ∈ x.naps, ∃ c p d, x.turn = .going c ∧
    x.before.gate.settings.retry.delay n x.moment.spread = .ok d ∧
    c.phase = .backingOff p n (x.moment.now + d.nanos)
  wakes : ∀ p n wake, x.call.phase = .backingOff p n wake → wake ≤ x.moment.now

end Leg

/-- What some moves tell, in their order. The last of them comes first in the log. -/
def recount {α : Type} (what : Leg → List α) (log : List Leg) : List α :=
  log.reverse.flatMap what

theorem recount_cons {α : Type} (what : Leg → List α) (x : Leg) (log : List Leg) :
    recount what (x :: log) = recount what log ++ what x := by
  rw [recount, recount, List.reverse_cons, List.flatMap_append, List.flatMap_singleton]

/-! ### Scripts -/

/-- Nothing goes wrong in a move by a script of results, which are numbered like the attempts: an
attempt that ends has the result of its number, the delay after it fits the clock if another one may
follow, the cooldown that the provider asks for fits the limiter, and the sender does not crash. -/
structure Plays (f : Feedback) (script : ℕ → SendResult) (m : Moment) (c : GateCall)
    (s : GateScene) : Prop where
  takes : ∀ p n r, c.Takes m s p n r → r = script n
  delay : ∀ p n r, c.Takes m s p n r → n < s.gate.settings.maxAttempts →
    ∃ d, s.gate.settings.retry.delay n m.spread = .ok d ∧ m.now + d.nanos < Moment.clockEnd
  bearable : ∀ p n r, c.Takes m s p n r → ¬ f.Unbearable r
  calm : ∀ p n reason due deadline,
    c.phase = .sending p n (.crash reason) due deadline → ¬ due ≤ m.now

/-- A call from its beginning at a gate on, with its moves so far, the last one first, what it has
become and the gate as it is now. All its moves are by a script. -/
inductive Journey (f : Feedback) (script : ℕ → SendResult) (url : String) (payload : Json)
    (g : Gate) : List Leg → Turn GateCall GateCall.End → Gate → Prop where
  | begins : Journey f script url payload g [] (.going { url, payload }) g
  /-- Others are at work on the gate. -/
  | others {log : List Leg} {turn : Turn GateCall GateCall.End} {g' g'' : Gate}
      (h : Journey f script url payload g log turn g') (hmatches : g'.Matches g'') :
      Journey f script url payload g log turn g''
  /-- The call moves. -/
  | moves {log : List Leg} {c : GateCall} {g' : Gate} {m : Moment} {sender : Sender}
      {turn : Turn GateCall GateCall.End} {scene : GateScene}
      (h : Journey f script url payload g log (.going c) g')
      (hplays : Plays f script m c ⟨g', sender, []⟩)
      (hstep : c.step f m ⟨g', sender, []⟩ = some (turn, scene)) :
      Journey f script url payload g (⟨m, c, ⟨g', sender, []⟩, turn, scene⟩ :: log) turn scene.gate

variable {f : Feedback} {script : ℕ → SendResult} {m : Moment} {c : GateCall} {s scene : GateScene}
  {p : CallPermit} {n : ℕ} {r : SendResult} {turn : Turn GateCall GateCall.End}

/-! ### How attempts end -/

/-- What is reported of a result before anything else: a rate limit that is heeded. -/
def signals (f : Feedback) (resource : String) (r : SendResult) : List Event :=
  if r.isRateLimited ∧ f.enabled then [.externalRateLimit resource r.retryAfter] else []

/-- Heeding a provider reports its signal and may throttle the limiter; everything else stays. -/
theorem heed_told (h : heed f m s r = .ok scene) :
    scene = { s with
      gate := { s.gate with limiter := scene.gate.limiter }
      events := signals f s.gate.resource r ++ s.events } := by
  have heq := heed_eq_ok h
  unfold signals
  split_ifs at heq ⊢
  · obtain ⟨limiter, -, rfl⟩ := heq
    rfl
  · rw [heq]
    rfl

/-- An attempt that ends shows its result. -/
theorem results_of_takes (h : c.Takes m s p n r) (turn : Turn GateCall GateCall.End)
    (scene : GateScene) : Leg.results ⟨m, c, s, turn, scene⟩ = [(n, r)] := by
  cases h with
  | reply hphase hdue => simp only [Leg.results, hphase, if_pos hdue]
  | timeUp hphase hdue => simp only [Leg.results, hphase, if_neg hdue]

/-- A call that has sent moves when its attempt ends, with the result that the script has for it. -/
theorem Plays.takes_of_sending (h : Plays f script m c s) {reply : Reply} {due deadline : ℕ}
    (hphase : c.phase = .sending p n reply due deadline)
    (hstep : c.step f m s = some (turn, scene)) :
    c.Takes m s p n (script n) ∧ finish f m c s p n (script n) = (turn, scene) := by
  have htakes : ∃ r, c.Takes m s p n r := by
    simp only [step, hphase] at hstep
    split_ifs at hstep with hdue hdeadline
    · cases reply with
      | crash reason => exact absurd hdue (h.calm p n reason due deadline hphase)
      | result r => exact ⟨r, .reply hphase hdue⟩
    · exact ⟨_, .timeUp hphase hdue hdeadline⟩
  obtain ⟨r, htakes⟩ := htakes
  obtain rfl := h.takes p n r htakes
  exact ⟨htakes, Option.some.inj ((step_of_takes htakes).symm.trans hstep)⟩

/-- How a call goes on after a result: it ends delivered, takes a nap before the next attempt, or
ends failed. -/
inductive Finishes (f : Feedback) (m : Moment) (c : GateCall) (s : GateScene) (p : CallPermit)
    (n : ℕ) (r : SendResult) : Turn GateCall GateCall.End → GateScene → Prop where
  | delivers (hsuccess : r.success = true) :
      Finishes f m c s p n r (.done (.ok (.delivered n r)))
        ((s.settle p true m.now).report (.success s.gate.resource)).leave
  | naps {heeded : GateScene} {d : Duration} (hfailure : r.success = false)
      (hheed : heed f m s r = .ok heeded) (hretryable : r.retryable = true)
      (hleft : n < s.gate.settings.maxAttempts)
      (hdelay : s.gate.settings.retry.delay n m.spread = .ok d) :
      Finishes f m c s p n r (.going { c with phase := .backingOff p n (m.now + d.nanos) })
        (heeded.report (.retry s.gate.resource n))
  | fails {heeded : GateScene} (hfailure : r.success = false)
      (hheed : heed f m s r = .ok heeded)
      (hlast : ¬ (r.retryable = true ∧ n < s.gate.settings.maxAttempts)) :
      Finishes f m c s p n r (.done (.ok (.failed n r))) (heeded.settle p false m.now).leave

theorem Plays.finishes (h : Plays f script m c s) (htakes : c.Takes m s p n r)
    (hfinish : finish f m c s p n r = (turn, scene)) : Finishes f m c s p n r turn scene := by
  obtain ⟨heeded, hheed⟩ : ∃ heeded, heed f m s r = .ok heeded := by
    cases hheed : heed f m s r with
    | error reason => exact absurd (heed_eq_error_iff.mp hheed).1 (h.bearable p n r htakes)
    | ok heeded => exact ⟨heeded, rfl⟩
  obtain ⟨hresource, hsettings⟩ := gate_resource_of_heeded (heeded_of_heed hheed)
  unfold finish at hfinish
  split_ifs at hfinish with hsuccess
  · obtain ⟨rfl, rfl⟩ := Prod.mk.inj hfinish
    exact .delivers hsuccess
  · have hfailure := Bool.eq_false_iff.mpr hsuccess
    simp only [hheed, hsettings, hresource] at hfinish
    split_ifs at hfinish with hretry
    · obtain ⟨d, hdelay, hfits⟩ := h.delay p n r htakes hretry.2
      have hdeadline : m.deadline d = m.now + d.nanos := if_pos hfits
      rw [hdelay] at hfinish
      simp only [hdeadline] at hfinish
      obtain ⟨rfl, rfl⟩ := Prod.mk.inj hfinish
      exact .naps hfailure hheed hretry.1 hretry.2 hdelay
    · obtain ⟨rfl, rfl⟩ := Prod.mk.inj hfinish
      exact .fails hfailure hheed hretry

/-- What follows on a result throttles the limiter once if the result is a rate limit that is
heeded, and leaves it alone otherwise. -/
theorem Finishes.throttles (h : Finishes f m c s p n r turn scene) :
    if r.isRateLimited ∧ f.enabled then
      s.gate.limiter.throttle (f.cooldownFor r.retryAfter) m.wall = .ok scene.gate.limiter
    else scene.gate.limiter = s.gate.limiter := by
  have hheeded : ∀ {heeded : GateScene}, heed f m s r = .ok heeded →
      if r.isRateLimited ∧ f.enabled then
        s.gate.limiter.throttle (f.cooldownFor r.retryAfter) m.wall = .ok heeded.gate.limiter
      else heeded.gate.limiter = s.gate.limiter := by
    intro heeded hheed
    have heq := heed_eq_ok hheed
    split_ifs at heq ⊢
    · obtain ⟨limiter, hthrottle, rfl⟩ := heq
      exact hthrottle
    · rw [heq]
  cases h with
  | delivers hsuccess =>
    rw [if_neg fun hlimited ↦ by simp [SendResult.isRateLimited, hsuccess] at hlimited]
    rfl
  | naps _ hheed | fails _ hheed =>
    have hthrottles := hheeded hheed
    exact hthrottles

/-! ### Lawful moves -/

/-- Before it has a permit, a call does not end attempts and takes no naps. -/
theorem nothing_of_unpermitted (hnone : c.permit? = none) (hadvance : Advance f m c s turn scene) :
    Leg.results ⟨m, c, s, turn, scene⟩ = [] ∧ Leg.naps ⟨m, c, s, turn, scene⟩ = [] := by
  cases hadvance with
  | queues hphase | enters hphase | full hphase | polls hphase | limited hphase | overflows hphase
  | skipped hphase | admitted hphase =>
    exact ⟨by simp only [Leg.results, hphase], rfl⟩
  | delivers hphase | retries hphase | fails hphase | crashes hphase | resumes hphase =>
    simp only [permit?, hphase] at hnone
    cases hnone

/-- A move by a script is lawful. -/
theorem Plays.lawful (h : Plays f script m c s) (hstep : c.step f m s = some (turn, scene)) :
    Leg.Lawful f ⟨m, c, s, turn, scene⟩ := by
  have hadvance : Advance f m c s turn scene := advance_of_step hstep
  have hbreaker := (deals_of_advance hadvance).ledger
  cases hphase : c.phase with
  | entering wait | pacing admission =>
    have hnone : c.permit? = none := by simp only [permit?, hphase]
    obtain ⟨hresults, hnaps⟩ := nothing_of_unpermitted hnone hadvance
    exact
      { throttles := by simp [hresults]
        limiter := fun hsome ↦ by simp [hnone] at hsome
        breaker := hbreaker
        naps := by simp [hnaps]
        wakes := fun p n wake hback ↦ by cases hphase.symm.trans hback }
  | sending p n reply due deadline =>
    obtain ⟨htakes, hfinish⟩ := h.takes_of_sending hphase hstep
    have hresults := results_of_takes htakes turn scene
    have hfinishes := h.finishes htakes hfinish
    exact
      { throttles := by
          intro n' r hr
          rw [hresults, List.mem_singleton] at hr
          obtain ⟨rfl, rfl⟩ := Prod.mk.inj hr
          exact hfinishes.throttles
        limiter := fun _ hnone ↦ by rw [hresults] at hnone; cases hnone
        breaker := hbreaker
        naps := by
          intro n' hn'
          cases hfinishes with
          | delivers | fails => cases hn'
          | naps _ _ _ _ hdelay =>
            obtain rfl := List.mem_singleton.mp hn'
            exact ⟨_, p, _, rfl, hdelay, rfl⟩
        wakes := fun p n wake hback ↦ by cases hphase.symm.trans hback }
  | backingOff p n wake =>
    simp only [step, hphase] at hstep
    split_ifs at hstep with hwake
    obtain ⟨rfl, rfl⟩ := Prod.mk.inj (Option.some.inj hstep)
    exact
      { throttles := fun n' r hr ↦ by simp only [Leg.results, hphase, List.not_mem_nil] at hr
        limiter := fun _ _ ↦ rfl
        breaker := hbreaker
        naps := fun n' hn' ↦ by cases hn'
        wakes := by
          intro p' n' wake' hback
          obtain ⟨rfl, rfl, rfl⟩ := Phase.backingOff.inj (hphase.symm.trans hback)
          exact hwake }

end Courier.GateCall

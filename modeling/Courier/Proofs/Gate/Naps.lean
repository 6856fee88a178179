import Courier.Proofs.Gate.Attempts

/-!
# The attempts after which a call naps

A call naps between two attempts, so it naps after those attempts on which another one may follow
(`GateSettings.RetriesAfter`), and after no others (`Gate.NapsAfter.retriesAfter`).

It does nap after all of them if it meets no obstacle at the gate while the provider cannot be
reached, and the clock leaves time for as many naps (`Gate.napsAfter_of_retriesAfter`), and a new
gate puts nothing in its way (`Gate.unhindered_of_new`). `GateCall.Trying` is such a call in an
attempt; `GateCall.Unhindered.naps_after` and `GateCall.Unhindered.trying_next` lead it through a
nap to the next one.
-/

set_option autoImplicit false
set_option relaxedAutoImplicit false

namespace Courier

open GateCall (Journey Leg recount Prompted prompter)

/-- Another attempt may follow on the attempt with a number. -/
def GateSettings.RetriesAfter (settings : GateSettings) (n : ℕ) : Prop :=
  1 ≤ n ∧ n < settings.maxAttempts

/-- Some call at a gate naps after the attempt with a number. -/
def Gate.NapsAfter (g : Gate) (n : ℕ) : Prop :=
  ∃ f script url payload log turn g',
    Journey f script url payload g log turn g' ∧ n ∈ recount Leg.naps log

theorem GateSettings.retriesAfter_of_not_ends {settings : GateSettings} {script : ℕ → SendResult}
    {n : ℕ} (hn : 1 ≤ n) (h : ¬ settings.Ends script n) : settings.RetriesAfter n := by
  have hleft : ¬ max 1 settings.maxAttempts ≤ n := fun hlast ↦ h (.inr (.inr hlast))
  exact ⟨hn, by omega⟩

/-- A call naps after attempts on which another one may follow. -/
theorem Gate.NapsAfter.retriesAfter {g : Gate} {n : ℕ} (h : g.NapsAfter n) :
    g.settings.RetriesAfter n := by
  obtain ⟨f, script, url, payload, log, turn, g', hjourney, hnap⟩ := h
  -- the naps so far follow the first attempts, and none of them was the last
  obtain ⟨k, hnaps, hpassed⟩ : ∃ k, recount Leg.naps log = List.range' 1 k ∧
      ∀ i, 1 ≤ i → i ≤ k → ¬ g.settings.Ends script i := by
    have hnone (i : ℕ) (hi : 1 ≤ i) (hle : i ≤ 0) : ¬ g.settings.Ends script i := by omega
    cases hjourney.stage with
    | waiting _ _ _ htale => exact ⟨0, htale.naps, hnone⟩
    | trying hpassed htale => exact ⟨_, htale.naps, hpassed⟩
    | napping hpassed htale => exact ⟨_, htale.naps, hpassed⟩
    | @tried k _ htried =>
      obtain ⟨p, since, now, htale⟩ := htried.tale
      refine ⟨k - 1, htale.naps, fun i hi hle hends ↦ ?_⟩
      have hleast := htried.least.2 ⟨hi, hends⟩
      omega
    | turnedAway hturned => exact ⟨0, hturned.tale.naps, hnone⟩
    | overflowed htale => exact ⟨0, htale.naps, hnone⟩
  rw [hnaps, List.mem_range'_1] at hnap
  exact GateSettings.retriesAfter_of_not_ends hnap.1 (hpassed n hnap.1 (by omega))

/-! ### Napping as often as possible -/

namespace GateCall

/-- The provider cannot be reached. -/
def outage (_ : ℕ) : SendResult := .networkError "down"

theorem not_unbearable_outage (n : ℕ) : ¬ ({} : Feedback).Unbearable (outage n) :=
  fun h ↦ Bool.false_ne_true h.limited

/-- A moment at an instant. -/
def momentAt (now : ℕ) : Moment := ({ now } : Clock).moment

variable {g g' : Gate} {log : List Leg} {n now longest : ℕ}

/-- A call during the outage is in the attempt with a number, which can end at an instant. -/
def Trying (g : Gate) (n now : ℕ) (log : List Leg) (g' : Gate) : Prop :=
  ∃ p deadline, Journey {} outage "url" .null g log
    (.going ⟨"url", .null, .sending p n (.result (outage n)) now deadline⟩) g'

/-- A call meets no obstacle at the gate, and the clock leaves it time for all of its naps. -/
structure Unhindered (g : Gate) (longest : ℕ) : Prop where
  slot : 1 ≤ g.bulkhead.free
  token : (g.limiter.poll 0).1 = true
  circuit : g.breaker.state = .closed
  timeout : g.limiter.settings.timeout.nanos < Moment.clockEnd
  delay : ∀ n, ∃ d, g.settings.retry.delay n 0.0 = .ok d ∧ d.nanos ≤ longest
  naps : g.settings.maxAttempts * longest < Moment.clockEnd

/-- A move that the outage and the clock allow. -/
theorem Unhindered.plays (h : Unhindered g longest) (hmatches : g.Matches g')
    (hnow : now + longest < Moment.clockEnd) {c : GateCall} {sender : Sender}
    (hprompted : Prompted outage (momentAt now) (.going c)) :
    Plays {} outage (momentAt now) c ⟨g', sender, []⟩ := by
  refine hprompted.plays (fun n _ ↦ ?_) not_unbearable_outage
  obtain ⟨d, hdelay, hlong⟩ := h.delay n
  refine ⟨d, ?_, (Nat.add_le_add_left hlong now).trans_lt hnow⟩
  rw [hmatches.settings]
  exact hdelay

/-- Who is not in an attempt needs no prompting. -/
theorem prompted_of_phase {script : ℕ → SendResult} {m : Moment} {c : GateCall}
    (h : ∀ p n reply due deadline, c.phase ≠ .sending p n reply due deadline) :
    Prompted script m (.going c) := by
  intro c' p n reply due deadline hturn hphase
  obtain rfl := Turn.going.inj hturn
  exact absurd hphase (h p n reply due deadline)

/-- The first attempt begins. -/
theorem Unhindered.trying_first (h : Unhindered g longest) (hmany : 1 ≤ g.settings.maxAttempts) :
    ∃ log g', Trying g 1 0 log g' := by
  have htime : 0 + longest < Moment.clockEnd := by
    rw [Nat.zero_add]
    exact (Nat.le_mul_of_pos_left longest hmany).trans_lt h.naps
  have hbegins : Journey {} outage "url" .null g [] (.going { url := "url", payload := .null }) g :=
    .begins
  -- the slot
  obtain ⟨free, hfree⟩ := Nat.exists_eq_add_of_le' h.slot
  have hslot : step {} (momentAt 0) { url := "url", payload := .null } ⟨g, Sender.log, []⟩ =
      some (.going ⟨"url", .null, .pacing .begun⟩,
        ⟨{ g with bulkhead := { g.bulkhead with free } }, Sender.log, []⟩) := by
    simp only [step, SlotWait.step, Bulkhead.take?, hfree]
  have hentering : Prompted outage (momentAt 0) (.going { url := "url", payload := .null }) :=
    prompted_of_phase fun _ _ _ _ _ hphase ↦ by cases hphase
  have hpaced := hbegins.moves (h.plays hbegins.matches htime hentering) hslot
  -- the token and the permit
  have hdeadline : Admission.deadline (momentAt 0).now g.limiter.settings.timeout =
      .ok ((momentAt 0).now + g.limiter.settings.timeout.nanos) :=
    if_pos ((Nat.zero_add _).trans_lt h.timeout)
  have hpoll : g.limiter.poll (momentAt 0).wall = (true, (g.limiter.poll 0).2) :=
    Prod.ext h.token rfl
  have hadmitted : ∃ p deadline scene, step {} (momentAt 0) ⟨"url", .null, .pacing .begun⟩
      ⟨{ g with bulkhead := { g.bulkhead with free } },
        prompter outage ⟨"url", .null, .pacing .begun⟩, []⟩ =
      some (.going ⟨"url", .null, .sending p 1 (.result (outage 1)) 0 deadline⟩, scene) := by
    simp only [step, Admission.step, hdeadline, Admission.poll, hpoll, admitted,
      CircuitBreaker.acquire_closed h.circuit]
    exact ⟨_, _, _, rfl⟩
  obtain ⟨p, deadline, scene, hstep⟩ := hadmitted
  have hpacing : Prompted outage (momentAt 0) (.going ⟨"url", .null, .pacing .begun⟩) :=
    prompted_of_phase fun _ _ _ _ _ hphase ↦ by cases hphase
  exact ⟨_, _, p, deadline, hpaced.moves (h.plays hpaced.matches htime hpacing) hstep⟩

/-- The attempt ends, and the call naps. -/
theorem Unhindered.naps_after (h : Unhindered g longest) (htrying : Trying g n now log g')
    (hleft : n < g.settings.maxAttempts) (hnow : now + longest < Moment.clockEnd) :
    ∃ x g'' p wake, Journey {} outage "url" .null g (x :: log)
        (.going ⟨"url", .null, .backingOff p n wake⟩) g'' ∧
      Leg.naps x = [n] ∧ wake ≤ now + longest := by
  obtain ⟨p, deadline, hjourney⟩ := htrying
  obtain ⟨d, hdelay, hlong⟩ := h.delay n
  have hmatches := hjourney.matches
  have hstep : step {} (momentAt now) ⟨"url", .null, .sending p n (.result (outage n)) now deadline⟩
      ⟨g', Sender.log, []⟩ = some (.going ⟨"url", .null, .backingOff p n (now + d.nanos)⟩,
        ⟨g', Sender.log, [.retry g'.resource n]⟩) := by
    have hready : now ≤ (momentAt now).now := le_rfl
    have hlater : (momentAt now).deadline d = now + d.nanos :=
      if_pos ((Nat.add_le_add_left hlong now).trans_lt hnow)
    have hretries : (outage n).retryable = true ∧ n < g'.settings.maxAttempts :=
      ⟨rfl, by rwa [hmatches.settings]⟩
    have hdelays : g'.settings.retry.delay n (momentAt now).spread = .ok d := by
      rw [hmatches.settings]
      exact hdelay
    have hfailure : (outage n).success = false := rfl
    have hheed : heed {} (momentAt now) ⟨g', Sender.log, []⟩ (outage n) =
        .ok ⟨g', Sender.log, []⟩ := rfl
    simp only [step, if_pos hready, finish, hfailure, Bool.false_eq_true, if_false, hheed,
      if_pos hretries, hdelays, hlater]
    rfl
  have hprompted : Prompted outage (momentAt now)
      (.going ⟨"url", .null, .sending p n (.result (outage n)) now deadline⟩) := by
    intro c p' n' reply due deadline' hturn hphase
    obtain rfl := Turn.going.inj hturn
    obtain ⟨-, rfl, rfl, rfl, -⟩ := Phase.sending.inj hphase
    exact ⟨rfl, le_rfl⟩
  exact ⟨_, _, p, _, hjourney.moves (h.plays hmatches hnow hprompted) hstep, rfl,
    Nat.add_le_add_left hlong now⟩

/-- The nap ends, and the next attempt begins. -/
theorem Unhindered.trying_next (h : Unhindered g longest) {p : CallPermit} {wake : ℕ}
    (hjourney : Journey {} outage "url" .null g log
      (.going ⟨"url", .null, .backingOff p n wake⟩) g')
    (hnow : wake + longest < Moment.clockEnd) : ∃ log g', Trying g (n + 1) wake log g' := by
  have hearly : wake < Moment.clockEnd := (Nat.le_add_right wake longest).trans_lt hnow
  have hstep : ∃ deadline scene, step {} (momentAt wake) ⟨"url", .null, .backingOff p n wake⟩
      ⟨g', prompter outage ⟨"url", .null, .backingOff p n wake⟩, []⟩ =
      some (.going ⟨"url", .null, .sending p (n + 1) (.result (outage (n + 1))) wake deadline⟩,
        scene) := by
    have hready : wake ≤ (momentAt wake).now := le_rfl
    have hdue : (momentAt wake).deadline .zero = wake := if_pos hearly
    simp only [step, if_pos hready, attempt, prompter, Sender.start, GateScene.report, hdue]
    exact ⟨_, _, rfl⟩
  obtain ⟨deadline, scene, hstep⟩ := hstep
  have hnapping : Prompted outage (momentAt wake) (.going ⟨"url", .null, .backingOff p n wake⟩) :=
    prompted_of_phase fun _ _ _ _ _ hphase ↦ by cases hphase
  exact ⟨_, _, p, deadline,
    hjourney.moves (h.plays hjourney.matches hnow hnapping) hstep⟩

/-- During the outage every attempt that the settings allow is reached. -/
theorem Unhindered.exists_trying (h : Unhindered g longest) (hn : n < g.settings.maxAttempts) :
    ∃ log g' now, now ≤ n * longest ∧ Trying g (n + 1) now log g' := by
  induction n with
  | zero =>
    obtain ⟨log, g', htrying⟩ := h.trying_first (by omega)
    exact ⟨log, g', 0, Nat.zero_le _, htrying⟩
  | succ n ih =>
    obtain ⟨log, g', now, hnow, htrying⟩ := ih (by omega)
    have htime : (n + 2) * longest < Moment.clockEnd :=
      (Nat.mul_le_mul_right longest hn).trans_lt h.naps
    rw [Nat.add_mul] at htime
    obtain ⟨x, g'', p, wake, hjourney, -, hwake⟩ := h.naps_after htrying hn (by omega)
    obtain ⟨later, gate, hnext⟩ := h.trying_next hjourney (by omega)
    refine ⟨later, gate, wake, ?_, hnext⟩
    rw [Nat.succ_mul]
    omega

end GateCall

namespace Gate

variable {settings : GateSettings} {resource : String} {g : Gate} {longest n : ℕ}

theorem limiter_of_new (hnew : Gate.new resource settings = .ok g) :
    RateLimiter.new settings.limiter = .ok g.limiter := by
  unfold Gate.new at hnew
  simp only [bind, Except.bind] at hnew
  split at hnew
  · cases hnew
  · split at hnew
    · cases hnew
    · rename_i hlimiter
      cases hnew
      exact hlimiter

/-- A new gate lets a call in at once. -/
theorem unhindered_of_new (hvalid : settings.invalid? = none)
    (hnew : Gate.new resource settings = .ok g)
    (htimeout : settings.limiter.timeout.nanos < Moment.clockEnd)
    (hdelay : ∀ n, ∃ d, settings.retry.delay n 0.0 = .ok d ∧ d.nanos ≤ longest)
    (hnaps : settings.maxAttempts * longest < Moment.clockEnd) :
    GateCall.Unhindered g longest := by
  obtain ⟨hbulkhead, hbreaker⟩ := Traffic.gate_of_new hnew
  obtain ⟨hsettings, hlimiter⟩ := Traffic.settings_of_new hnew
  have hlimiter' := limiter_of_new hnew
  have hfresh := (RateLimiter.new_eq hlimiter').2
  simp only [GateSettings.invalid?, GateSettings.about, Option.orElse_eq_orElse,
    Option.orElse_eq_or, Option.or_eq_none_iff, Option.map_eq_none_iff] at hvalid
  obtain ⟨-, -, -, hlimits, hslots⟩ := hvalid
  obtain ⟨-, hburst, hspent⟩ := RateLimiter.fresh_of_new hlimits hlimiter'
  exact
    { slot := by
        unfold Bulkhead.new at hbulkhead
        split_ifs at hbulkhead
        rw [← Except.ok.inj hbulkhead]
        by_contra hnone
        rw [BulkheadSettings.invalid?, if_pos (Nat.lt_of_not_le hnone)] at hslots
        cases hslots
      token := by
        have hrefresh : g.limiter.refresh 0 = g.limiter :=
          RateLimiter.refresh_of_none (by rw [hfresh])
        have hwhole : g.limiter.bucket = g.limiter.fresh := by rw [hfresh]
        refine (RateLimiter.poll_of_whole hburst hspent ?_ ?_).1
        · rw [hrefresh, hfresh]
        · rw [hrefresh, hwhole]
      circuit := by rw [hbreaker]
      timeout := by rwa [hlimiter]
      delay := by rwa [hsettings]
      naps := by rwa [hsettings] }

/-- A call that meets no obstacle may nap after all attempts on which another one may follow. -/
theorem napsAfter_of_retriesAfter (h : GateCall.Unhindered g longest)
    (hn : g.settings.RetriesAfter n) : g.NapsAfter n := by
  obtain ⟨hpos, hleft⟩ := hn
  obtain ⟨n, rfl⟩ := Nat.exists_eq_add_of_le' hpos
  obtain ⟨log, g', now, hnow, htrying⟩ := h.exists_trying (Nat.lt_of_succ_lt hleft)
  have htime : (n + 2) * longest < Moment.clockEnd :=
    (Nat.mul_le_mul_right longest hleft).trans_lt h.naps
  rw [Nat.add_mul] at htime
  obtain ⟨x, g'', p, wake, hjourney, hnaps, -⟩ := h.naps_after htrying hleft (by omega)
  refine ⟨_, _, _, _, _, _, _, hjourney, ?_⟩
  rw [GateCall.recount_cons, hnaps]
  exact List.mem_append_right _ List.mem_cons_self

end Gate

end Courier

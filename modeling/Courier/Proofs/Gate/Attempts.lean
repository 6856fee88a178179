import Courier.Proofs.Gate.Journey
import Mathlib.Order.Bounds.Basic

/-!
# How often a call tries

A call that follows a script of results tries until one is final: a success, a failure for good, or
the last that the settings allow (`GateSettings.Ends`). `GateCall.Tale` is what its moves tell of it
so far, and `GateCall.Stage` how far it may have come: it waits for slot and admission, it is in an
attempt, it naps, or it has ended. Every move by the script leads from stage to stage
(`GateCall.Stage.step`), hence every journey is in one of them (`GateCall.Journey.stage`).

So a call that is admitted makes as many attempts as the first final result says, ends with that
result, and reports exactly `GateCall.saga`; a call that is turned away says so and nothing else
(`GateCall.tries_until_final`). A call alone at a gate whose sender answers by a script is on a
journey (`GateCall.journey_of_rehearse`), so there are journeys to run.
-/

set_option autoImplicit false
set_option relaxedAutoImplicit false

namespace Courier

open Rehearsal (Settlement)

/-- No attempt follows on the result of the attempt with some number. -/
def GateSettings.Ends (settings : GateSettings) (script : ℕ → SendResult) (n : ℕ) : Prop :=
  (script n).success = true ∨ (script n).retryable = false ∨ max 1 settings.maxAttempts ≤ n

/-- After a failure another attempt follows if the failure may pass and attempts are left. -/
theorem GateSettings.ends_of_failure {settings : GateSettings} {script : ℕ → SendResult} {n : ℕ}
    (hfailure : (script n).success = false) (hn : 1 ≤ n) :
    settings.Ends script n ↔ ¬ ((script n).retryable = true ∧ n < settings.maxAttempts) := by
  have hleft : max 1 settings.maxAttempts ≤ n ↔ ¬ n < settings.maxAttempts := by omega
  rw [Ends, hfailure, hleft, not_and_or, Bool.not_eq_true]
  exact or_iff_right Bool.false_ne_true

namespace GateCall

/-! ### What is told -/

/-- What is reported of some attempts on each of which another one follows. -/
def repeats (f : Feedback) (resource : String) (script : ℕ → SendResult) (n : ℕ) : List Event :=
  (List.range' 1 n).flatMap fun i ↦
    .attempt resource :: (signals f resource (script i) ++ [.retry resource i])

theorem repeats_succ (f : Feedback) (resource : String) (script : ℕ → SendResult) (n : ℕ) :
    repeats f resource script (n + 1) = repeats f resource script n ++
      .attempt resource :: (signals f resource (script (n + 1)) ++ [.retry resource (n + 1)]) := by
  rw [repeats, List.range'_1_concat, List.flatMap_append, List.flatMap_singleton, Nat.add_comm 1 n]
  rfl

/-- What is reported of a call that makes some attempts, of which the last one is final. -/
def saga (f : Feedback) (resource : String) (script : ℕ → SendResult) (k : ℕ) : List Event :=
  repeats f resource script (k - 1) ++
    .attempt resource :: (signals f resource (script k) ++
      if (script k).success then [.success resource] else [])

/-- The outcome of a call whose last attempt has some number and result. -/
def outcomeOf (k : ℕ) (r : SendResult) : GateOutcome :=
  if r.success then .delivered k r else .failed k r

/-- How the permit of a call is settled by the result of its last attempt. -/
def settlementOf (r : SendResult) : Settlement := if r.success then .succeed else .fail

/-- What lawful moves tell: as many sends of the payload to the address as attempts were begun, the
results of those that have ended, the naps that were taken, the events and the dealings with the
breaker. -/
structure Tale (f : Feedback) (script : ℕ → SendResult) (url : String) (payload : Json)
    (log : List Leg) (begun ended napped : ℕ) (events : List Event) (dealings : List Dealing) :
    Prop where
  sent : (recount Leg.sent log).map (fun x ↦ (x.url, x.payload)) =
    List.replicate begun (url, payload)
  results : recount Leg.results log = (List.range' 1 ended).map fun i ↦ (i, script i)
  naps : recount Leg.naps log = List.range' 1 napped
  said : recount Leg.said log = events
  dealings : recount Leg.dealings log = dealings
  lawful : ∀ x ∈ log, Leg.Lawful f x

/-- A call was admitted and made attempts up to the first result that is final. It has told all of
them, and its permit was settled once, by that result. -/
structure Tried (f : Feedback) (script : ℕ → SendResult) (url : String) (payload : Json) (g : Gate)
    (log : List Leg) (k : ℕ) : Prop where
  least : IsLeast {n | 1 ≤ n ∧ g.settings.Ends script n} k
  tale : ∃ p since now, Tale f script url payload log k k (k - 1) (saga f g.resource script k)
    [.granted p since, .settled p (settlementOf (script k)) now]

/-- A call was turned away: it has sent nothing, said that it was turned away and nothing else, and
done nothing to the breaker; and if it did not get a slot, nothing to the limiter. -/
structure TurnedAway (f : Feedback) (script : ℕ → SendResult) (url : String) (payload : Json)
    (g : Gate) (log : List Leg) (rejection : Rejection) : Prop where
  tale : Tale f script url payload log 0 0 0 [rejection.event g.resource] []
  breaker : ∀ x ∈ log, x.after.gate.breaker = x.before.gate.breaker
  limiter : rejection = .bulkheadFull → ∀ x ∈ log, x.after.gate.limiter = x.before.gate.limiter

variable {f : Feedback} {script : ℕ → SendResult} {url : String} {payload : Json} {g g' : Gate}
  {log : List Leg} {x : Leg} {begun ended napped : ℕ} {events more : List Event}
  {dealings others : List Dealing} {m : Moment} {c : GateCall} {s scene : GateScene}
  {turn : Turn GateCall GateCall.End}

/-- One more move is told after the others. -/
theorem Tale.cons (h : Tale f script url payload log begun ended napped events dealings)
    (hlawful : x.Lawful f) {i j k : ℕ}
    (hsent : x.sent.map (fun x ↦ (x.url, x.payload)) = List.replicate i (url, payload))
    (hresults : x.results = (List.range' (1 + ended) j).map fun i ↦ (i, script i))
    (hnaps : x.naps = List.range' (1 + napped) k) (hsaid : x.said = more)
    (hdealings : x.dealings = others) :
    Tale f script url payload (x :: log) (begun + i) (ended + j) (napped + k) (events ++ more)
      (dealings ++ others) where
  sent := by rw [recount_cons, List.map_append, hsent, h.sent, List.replicate_append_replicate]
  results := by rw [recount_cons, hresults, h.results, ← List.map_append, List.range'_append_1]
  naps := by rw [recount_cons, hnaps, h.naps, List.range'_append_1]
  said := by rw [recount_cons, hsaid, h.said]
  dealings := by rw [recount_cons, hdealings, h.dealings]
  lawful := List.forall_mem_cons.mpr ⟨hlawful, h.lawful⟩

/-- A move in which no attempt begins or ends, and no nap begins. -/
theorem Tale.quiet (h : Tale f script url payload log begun ended napped events dealings)
    (hlawful : x.Lawful f) (hsent : x.sent = []) (hresults : x.results = []) (hnaps : x.naps = [])
    (hsaid : x.said = more) (hdealings : x.dealings = others) :
    Tale f script url payload (x :: log) begun ended napped (events ++ more)
      (dealings ++ others) :=
  h.cons hlawful (i := 0) (j := 0) (k := 0) (by rw [hsent]; rfl) hresults hnaps hsaid hdealings

/-- A move in which an attempt begins. -/
theorem Tale.begins (h : Tale f script url payload log begun ended napped events dealings)
    (hlawful : x.Lawful f) {now : ℕ} (hsent : x.sent = [⟨now, url, payload⟩])
    (hresults : x.results = []) (hnaps : x.naps = []) (hsaid : x.said = more)
    (hdealings : x.dealings = others) :
    Tale f script url payload (x :: log) (begun + 1) ended napped (events ++ more)
      (dealings ++ others) :=
  h.cons hlawful (i := 1) (j := 0) (k := 0) (by rw [hsent]; rfl) hresults hnaps hsaid hdealings

/-- A move in which an attempt ends, and naps may begin. -/
theorem Tale.ends (h : Tale f script url payload log begun ended napped events dealings)
    (hlawful : x.Lawful f) (hsent : x.sent = [])
    (hresults : x.results = [(ended + 1, script (ended + 1))]) (k : ℕ)
    (hnaps : x.naps = List.range' (1 + napped) k) (hsaid : x.said = more)
    (hdealings : x.dealings = others) :
    Tale f script url payload (x :: log) begun (ended + 1) (napped + k) (events ++ more)
      (dealings ++ others) :=
  h.cons hlawful (i := 0) (j := 1) (by rw [hsent]; rfl)
    (by rw [hresults, Nat.add_comm 1 ended]; rfl) hnaps hsaid hdealings

/-! ### Stages -/

/-- How far a call may have come that follows a script, by its moves, the last one first. -/
inductive Stage (f : Feedback) (script : ℕ → SendResult) (url : String) (payload : Json)
    (g : Gate) : List Leg → Turn GateCall GateCall.End → Prop where
  /-- On the way to slot and admission. -/
  | waiting {c : GateCall} {log : List Leg} (hurl : c.url = url) (hpayload : c.payload = payload)
      (hpermit : c.permit? = none) (htale : Tale f script url payload log 0 0 0 [] [])
      (hbreaker : ∀ x ∈ log, x.after.gate.breaker = x.before.gate.breaker)
      (hlimiter : ∀ wait, c.phase = .entering wait →
        ∀ x ∈ log, x.after.gate.limiter = x.before.gate.limiter) :
      Stage f script url payload g log (.going c)
  /-- In an attempt, after some on which another one had to follow. -/
  | trying {n due deadline since : ℕ} {p : CallPermit} {reply : Reply} {log : List Leg}
      (hpassed : ∀ i, 1 ≤ i → i ≤ n → ¬ g.settings.Ends script i)
      (htale : Tale f script url payload log (n + 1) n n
        (repeats f g.resource script n ++ [.attempt g.resource]) [.granted p since]) :
      Stage f script url payload g log
        (.going ⟨url, payload, .sending p (n + 1) reply due deadline⟩)
  /-- In the nap after an attempt. -/
  | napping {n wake since : ℕ} {p : CallPermit} {log : List Leg}
      (hpassed : ∀ i, 1 ≤ i → i ≤ n → ¬ g.settings.Ends script i)
      (htale : Tale f script url payload log n n n (repeats f g.resource script n)
        [.granted p since]) :
      Stage f script url payload g log (.going ⟨url, payload, .backingOff p n wake⟩)
  | tried {k : ℕ} {log : List Leg} (h : Tried f script url payload g log k) :
      Stage f script url payload g log (.done (.ok (outcomeOf k (script k))))
  | turnedAway {rejection : Rejection} {log : List Leg}
      (h : TurnedAway f script url payload g log rejection) :
      Stage f script url payload g log (.done (.ok (.rejected rejection)))
  /-- It would have waited for the limiter beyond the end of the clock. -/
  | overflowed {log : List Leg} (htale : Tale f script url payload log 0 0 0 [] []) :
      Stage f script url payload g log (.done (.error .deadlineTooFar))

theorem sent_of_kept (hsender : scene.sender = s.sender) :
    Leg.sent ⟨m, c, s, turn, scene⟩ = [] :=
  Leg.sent_eq (congrArg Sender.sent hsender)

theorem sent_of_begun {x : Sent} (hsender : scene.sender.sent = x :: s.sender.sent) :
    Leg.sent ⟨m, c, s, turn, scene⟩ = [x] :=
  Leg.sent_eq hsender

/-- Who has no permit and gets none does nothing to the breaker. -/
theorem dealings_of_unpermitted (hpermit : c.permit? = none)
    (hpermits : (Visit.ofTurn turn).permits = []) : Leg.dealings ⟨m, c, s, turn, scene⟩ = [] := by
  simp only [Leg.dealings, Visit.dealings, hpermit, hpermits]

/-- A call on the way to slot and admission gets on, is turned away or begins its first attempt. -/
theorem stage_of_waiting (hpermit : c.permit? = none)
    (htale : Tale f script c.url c.payload log 0 0 0 [] [])
    (hbreaker : ∀ x ∈ log, x.after.gate.breaker = x.before.gate.breaker)
    (hlimiter : ∀ wait, c.phase = .entering wait →
      ∀ x ∈ log, x.after.gate.limiter = x.before.gate.limiter)
    (hresource : s.gate.resource = g.resource) (hevents : s.events = [])
    (hlawful : Leg.Lawful f ⟨m, c, s, turn, scene⟩) (hadvance : Advance f m c s turn scene) :
    Stage f script c.url c.payload g (⟨m, c, s, turn, scene⟩ :: log) turn := by
  obtain ⟨hresults, hnaps⟩ := nothing_of_unpermitted hpermit hadvance
  -- what is told of a move without an attempt
  have hquiet {said : List Event} (hsender : scene.sender = s.sender)
      (hsaid : scene.events.reverse = said) (hpermits : (Visit.ofTurn turn).permits = []) :
      Tale f script c.url c.payload (⟨m, c, s, turn, scene⟩ :: log) 0 0 0 said [] :=
    htale.quiet hlawful (sent_of_kept hsender) hresults hnaps hsaid
      (dealings_of_unpermitted hpermit hpermits)
  have hsilent : s.events.reverse = [] := by rw [hevents]; rfl
  have hrejected (rejection : Rejection) :
      (rejection.event s.gate.resource :: s.events).reverse = [rejection.event g.resource] := by
    rw [hevents, hresource]
    rfl
  cases hadvance with
  | queues hphase =>
    exact .waiting rfl rfl rfl (hquiet rfl hsilent rfl)
      (List.forall_mem_cons.mpr ⟨rfl, hbreaker⟩)
      fun _ _ ↦ List.forall_mem_cons.mpr ⟨rfl, hlimiter _ hphase⟩
  | enters hphase =>
    exact .waiting rfl rfl rfl (hquiet rfl hsilent rfl)
      (List.forall_mem_cons.mpr ⟨rfl, hbreaker⟩) fun wait hentering ↦ by cases hentering
  | polls hphase =>
    exact .waiting rfl rfl rfl (hquiet rfl hsilent rfl)
      (List.forall_mem_cons.mpr ⟨rfl, hbreaker⟩) fun wait hentering ↦ by cases hentering
  | full hphase =>
    exact .turnedAway
      { tale := hquiet rfl (hrejected .bulkheadFull) rfl
        breaker := List.forall_mem_cons.mpr ⟨rfl, hbreaker⟩
        limiter := fun _ ↦ List.forall_mem_cons.mpr ⟨rfl, hlimiter _ hphase⟩ }
  | limited hphase =>
    exact .turnedAway
      { tale := hquiet rfl (hrejected .rateLimited) rfl
        breaker := List.forall_mem_cons.mpr ⟨rfl, hbreaker⟩
        limiter := fun hfull ↦ by cases hfull }
  | skipped hphase hadmission hrefused =>
    exact .turnedAway
      { tale := hquiet rfl (hrejected .circuitOpen) rfl
        breaker := List.forall_mem_cons.mpr ⟨breaker_of_refused hrefused, hbreaker⟩
        limiter := fun hfull ↦ by cases hfull }
  | overflows hphase hadmission =>
    obtain ⟨-, rfl, -⟩ := deadline_of_admission hadmission
    exact .overflowed (hquiet rfl hsilent rfl)
  | admitted hphase hadmission hgranted =>
    have hsaid : (Event.attempt s.gate.resource :: s.events).reverse = [.attempt g.resource] := by
      rw [hevents, hresource]
      rfl
    exact .trying (n := 0) (fun i hi hle ↦ absurd hi (by omega))
      (htale.begins hlawful (sent_of_begun rfl) hresults hnaps hsaid
        (by simp only [Leg.dealings, Visit.dealings, hpermit]; rfl))
  | delivers hphase | retries hphase | fails hphase | crashes hphase | resumes hphase =>
    simp only [permit?, hphase] at hpermit
    cases hpermit

/-- The attempts before one that is final were not. -/
theorem isLeast_of_passed {settings : GateSettings} {n : ℕ}
    (hpassed : ∀ i, 1 ≤ i → i ≤ n → ¬ settings.Ends script i)
    (hends : settings.Ends script (n + 1)) :
    IsLeast {i | 1 ≤ i ∧ settings.Ends script i} (n + 1) :=
  ⟨⟨Nat.le_add_left 1 n, hends⟩, fun i hi ↦
    Nat.lt_of_not_le fun hle ↦ hpassed i hi.1 hle hi.2⟩

theorem signals_of_success {r : SendResult} (hsuccess : r.success = true) (resource : String) :
    signals f resource r = [] :=
  if_neg fun hboth ↦ by simp [SendResult.isRateLimited, hsuccess] at hboth

/-- A call that heeds a result has reported the signal of the provider, if there is one. -/
theorem said_of_heed {r : SendResult} {heeded : GateScene} (hevents : s.events = [])
    (hheed : heed f m s r = .ok heeded) :
    heeded.events.reverse = signals f s.gate.resource r := by
  rw [heed_told hheed, hevents, List.append_nil]
  unfold signals
  split_ifs <;> rfl

/-- A call whose last attempt ends has tried. -/
theorem tried_of_last {p : CallPermit} {n since : ℕ}
    (hpassed : ∀ i, 1 ≤ i → i ≤ n → ¬ g.settings.Ends script i)
    (htale : Tale f script url payload log (n + 1) n n
      (repeats f g.resource script n ++ [.attempt g.resource]) [.granted p since])
    (hends : g.settings.Ends script (n + 1)) (hpermit : x.call.permit? = some p)
    (hturn : x.turn = .done (.ok (outcomeOf (n + 1) (script (n + 1))))) (hlawful : x.Lawful f)
    (hsent : x.sent = []) (hresults : x.results = [(n + 1, script (n + 1))])
    (hsaid : x.said = signals f g.resource (script (n + 1)) ++
      if (script (n + 1)).success then [.success g.resource] else []) :
    Tried f script url payload g (x :: log) (n + 1) := by
  have hnaps : x.naps = [] := by simp only [Leg.naps, hturn]
  have hsettled : x.dealings =
      [.settled p (settlementOf (script (n + 1))) x.moment.now] := by
    simp only [Leg.dealings, Visit.dealings, hpermit, hturn, outcomeOf, settlementOf]
    split_ifs <;> rfl
  have hall := htale.ends hlawful hsent hresults 0 hnaps hsaid hsettled
  rw [List.append_assoc, List.singleton_append] at hall
  exact ⟨isLeast_of_passed hpassed hends, p, since, x.moment.now, hall⟩

/-- A call whose attempt ends takes a nap or has tried. -/
theorem stage_of_sending {p : CallPermit} {n due deadline since : ℕ} {reply : Reply}
    (hphase : c.phase = .sending p (n + 1) reply due deadline)
    (hpassed : ∀ i, 1 ≤ i → i ≤ n → ¬ g.settings.Ends script i)
    (htale : Tale f script c.url c.payload log (n + 1) n n
      (repeats f g.resource script n ++ [.attempt g.resource]) [.granted p since])
    (hmatches : g.Matches s.gate) (hevents : s.events = []) (hplays : Plays f script m c s)
    (hstep : c.step f m s = some (turn, scene)) :
    Stage f script c.url c.payload g (⟨m, c, s, turn, scene⟩ :: log) turn := by
  obtain ⟨htakes, hfinish⟩ := hplays.takes_of_sending hphase hstep
  have hlawful := hplays.lawful hstep
  have hresults := results_of_takes htakes turn scene
  have hpermit : c.permit? = some p := by simp only [permit?, hphase]
  have hends (hfailure : (script (n + 1)).success = false) :
      g.settings.Ends script (n + 1) ↔
        ¬ ((script (n + 1)).retryable = true ∧ n + 1 < s.gate.settings.maxAttempts) := by
    rw [hmatches.settings]
    exact GateSettings.ends_of_failure hfailure (Nat.le_add_left 1 n)
  cases hplays.finishes htakes hfinish with
  | delivers hsuccess =>
    have houtcome : outcomeOf (n + 1) (script (n + 1)) = .delivered (n + 1) (script (n + 1)) :=
      if_pos hsuccess
    have hsaid : (Event.success s.gate.resource :: s.events).reverse =
        signals f g.resource (script (n + 1)) ++
          if (script (n + 1)).success then [.success g.resource] else [] := by
      rw [hevents, hmatches.resource, signals_of_success hsuccess, if_pos hsuccess]
      rfl
    have hstage := Stage.tried <| tried_of_last hpassed htale (.inl hsuccess) hpermit
      (by rw [houtcome]) hlawful (sent_of_kept rfl) hresults hsaid
    rwa [houtcome] at hstage
  | @naps heeded d hfailure hheed hretryable hleft hdelay =>
    have hsaid : (Event.retry s.gate.resource (n + 1) :: heeded.events).reverse =
        signals f g.resource (script (n + 1)) ++ [.retry g.resource (n + 1)] := by
      rw [List.reverse_cons, said_of_heed hevents hheed, hmatches.resource]
    have hsender : heeded.sender = s.sender := sender_of_heed hheed
    have hall := htale.ends hlawful (sent_of_kept hsender) hresults 1
      (by rw [Nat.add_comm 1 n]; rfl) hsaid
      (by simp only [Leg.dealings, Visit.dealings, hpermit]; rfl)
    rw [List.append_assoc, List.singleton_append, ← repeats_succ] at hall
    refine .napping (n := n + 1) (fun i hi hle ↦ ?_) hall
    rcases Nat.le_succ_iff.mp hle with hle | rfl
    · exact hpassed i hi hle
    · exact fun hend ↦ (hends hfailure).mp hend ⟨hretryable, hleft⟩
  | @fails heeded hfailure hheed hfinal =>
    have hsender : heeded.sender = s.sender := sender_of_heed hheed
    have hfailed : ¬ (script (n + 1)).success = true := Bool.eq_false_iff.mp hfailure
    have houtcome : outcomeOf (n + 1) (script (n + 1)) = .failed (n + 1) (script (n + 1)) :=
      if_neg hfailed
    have hsaid : heeded.events.reverse = signals f g.resource (script (n + 1)) ++
        if (script (n + 1)).success then [.success g.resource] else [] := by
      rw [said_of_heed hevents hheed, hmatches.resource, if_neg hfailed, List.append_nil]
    have hstage := Stage.tried <| tried_of_last hpassed htale ((hends hfailure).mpr hfinal) hpermit
      (by rw [houtcome]) hlawful (sent_of_kept hsender) hresults hsaid
    rwa [houtcome] at hstage

/-- Every move by the script leads from stage to stage. -/
theorem Stage.step (h : Stage f script url payload g log (.going c)) (hmatches : g.Matches s.gate)
    (hevents : s.events = []) (hplays : Plays f script m c s)
    (hstep : c.step f m s = some (turn, scene)) :
    Stage f script url payload g (⟨m, c, s, turn, scene⟩ :: log) turn := by
  have hlawful := hplays.lawful hstep
  cases h with
  | waiting hurl hpayload hpermit htale hbreaker hlimiter =>
    subst hurl hpayload
    exact stage_of_waiting hpermit htale hbreaker hlimiter hmatches.resource hevents hlawful
      (advance_of_step hstep)
  | trying hpassed htale => exact stage_of_sending rfl hpassed htale hmatches hevents hplays hstep
  | napping hpassed htale =>
    simp only [GateCall.step] at hstep
    split_ifs at hstep with hwake
    obtain ⟨rfl, rfl⟩ := Prod.mk.inj (Option.some.inj hstep)
    have hsaid : (Event.attempt s.gate.resource :: s.events).reverse = [.attempt g.resource] := by
      rw [hevents, hmatches.resource]
      rfl
    exact .trying hpassed (htale.begins hlawful (sent_of_begun rfl) rfl rfl hsaid rfl)

/-- On a journey the gate keeps its name and its settings. -/
theorem Journey.matches (h : Journey f script url payload g log turn g') : g.Matches g' := by
  induction h with
  | begins => exact .refl g
  | others _ hmatches ih => exact ih.trans hmatches
  | moves _ _ hstep ih => exact ih.trans (matches_of_advance (advance_of_step hstep))

/-- On a journey the call is in one of the stages. -/
theorem Journey.stage (h : Journey f script url payload g log turn g') :
    Stage f script url payload g log turn := by
  induction h with
  | begins =>
    exact .waiting rfl rfl rfl ⟨rfl, rfl, rfl, rfl, rfl, by simp⟩ (by simp) (by simp)
  | others _ _ ih => exact ih
  | moves h hplays hstep ih => exact ih.step h.matches rfl hplays hstep

/-- A call makes at most as many attempts as its gate allows, and one in any case. -/
theorem Stage.attempts_le (h : Stage f script url payload g log (.going c)) :
    c.attempts ≤ max 1 g.settings.maxAttempts := by
  have hbound {n : ℕ} (hpassed : ∀ i, 1 ≤ i → i ≤ n → ¬ g.settings.Ends script i) :
      n < max 1 g.settings.maxAttempts := by
    by_contra hlast
    exact hpassed n (by omega) le_rfl (.inr (.inr (by omega)))
  cases h with
  | waiting _ _ hpermit =>
    cases hphase : c.phase with
    | entering | pacing => simp [attempts, hphase]
    | sending | backingOff => simp [permit?, hphase] at hpermit
  | trying hpassed => exact hbound hpassed
  | napping hpassed => exact (hbound hpassed).le

/-! ### Calls alone -/

/-- A sender whose next call ends at once, with the result that a script has for the next attempt of
a call. -/
def prompter (script : ℕ → SendResult) (c : GateCall) : Sender :=
  { plan := fun _ ↦ ⟨.zero, .result (script (c.attempts + 1))⟩ }

/-- A call alone at a gate makes some moves at one moment, by a script. -/
def rehearse (f : Feedback) (script : ℕ → SendResult) (m : Moment) :
    ℕ → List Leg × Turn GateCall GateCall.End × Gate →
      Option (List Leg × Turn GateCall GateCall.End × Gate)
  | 0, run => some run
  | _ + 1, (_, .done _, _) => none
  | moves + 1, (log, .going c, g) =>
    (c.step f m ⟨g, prompter script c, []⟩).bind fun (turn, scene) ↦
      rehearse f script m moves
        (⟨m, c, ⟨g, prompter script c, []⟩, turn, scene⟩ :: log, turn, scene.gate)

/-- If a call is in an attempt, this can end now, with the result that the script has for it. -/
def Prompted (script : ℕ → SendResult) (m : Moment) (turn : Turn GateCall GateCall.End) : Prop :=
  ∀ c p n reply due deadline, turn = .going c → c.phase = .sending p n reply due deadline →
    reply = .result (script n) ∧ due ≤ m.now

theorem Prompted.plays (h : Prompted script m (.going c))
    (hdelay : ∀ n < s.gate.settings.maxAttempts,
      ∃ d, s.gate.settings.retry.delay n m.spread = .ok d ∧ m.now + d.nanos < Moment.clockEnd)
    (hbearable : ∀ n, ¬ f.Unbearable (script n)) : Plays f script m c s := by
  have htakes : ∀ p n r, c.Takes m s p n r → r = script n := by
    intro p n r htakes
    cases htakes with
    | reply hphase => exact Reply.result.inj (h c p n _ _ _ rfl hphase).1
    | timeUp hphase hdue => exact absurd (h c p n _ _ _ rfl hphase).2 hdue
  exact
    { takes := htakes
      delay := fun p n r _ hleft ↦ hdelay n hleft
      bearable := fun p n r h ↦ htakes p n r h ▸ hbearable n
      calm := fun p n reason due deadline hphase ↦ by cases (h c p n _ _ _ rfl hphase).1 }

/-- An attempt that begins with a prompt sender can end at once. -/
theorem prompted_of_attempt (hnow : m.now < Moment.clockEnd)
    (hsender : s.sender = prompter script c) (p : CallPermit) :
    Prompted script m (attempt m c s p (c.attempts + 1)).1 := by
  intro c' p' n reply due deadline hturn hphase
  obtain rfl := Turn.going.inj hturn
  obtain ⟨-, rfl, rfl, rfl, -⟩ := Phase.sending.inj hphase
  have hdue : m.deadline .zero = m.now := if_pos hnow
  simp only [GateScene.report, hsender]
  exact ⟨rfl, hdue.le⟩

theorem prompted_of_advance (hnow : m.now < Moment.clockEnd)
    (hsender : s.sender = prompter script c) (h : Advance f m c s turn scene) :
    Prompted script m turn := by
  cases h with
  | admitted hphase =>
    have hfirst : c.attempts + 1 = 1 := by simp only [attempts, hphase]
    rw [← hfirst]
    exact prompted_of_attempt hnow hsender _
  | @resumes p n wake hphase =>
    have hnext : c.attempts = n := by simp only [attempts, hphase]
    rw [← hnext]
    exact prompted_of_attempt hnow hsender _
  | queues | enters | polls | retries =>
    intro c' p n reply due deadline hturn hphase
    obtain rfl := Turn.going.inj hturn
    cases hphase
  | full | limited | overflows | skipped | delivers | fails | crashes =>
    intro c' p n reply due deadline hturn
    cases hturn

/-- A call alone that moves by a script is on a journey. -/
theorem journey_of_rehearse {moves : ℕ} {turn' : Turn GateCall GateCall.End} {g'' : Gate}
    {log' : List Leg} (hnow : m.now < Moment.clockEnd)
    (hdelay : ∀ n < g.settings.maxAttempts,
      ∃ d, g.settings.retry.delay n m.spread = .ok d ∧ m.now + d.nanos < Moment.clockEnd)
    (hbearable : ∀ n, ¬ f.Unbearable (script n))
    (h : Journey f script url payload g log turn g') (hprompted : Prompted script m turn)
    (hrun : rehearse f script m moves (log, turn, g') = some (log', turn', g'')) :
    Journey f script url payload g log' turn' g'' := by
  induction moves generalizing log turn g' with
  | zero =>
    obtain ⟨rfl, rfl, rfl⟩ : log = log' ∧ turn = turn' ∧ g' = g'' := by
      simpa only [rehearse, Option.some.injEq, Prod.mk.injEq] using hrun
    exact h
  | succ moves ih =>
    cases turn with
    | done answer => cases hrun
    | going c =>
      obtain ⟨⟨turn, scene⟩, hstep, hrun⟩ := Option.bind_eq_some_iff.mp hrun
      have hplays : Plays f script m c ⟨g', prompter script c, []⟩ :=
        hprompted.plays (by rw [h.matches.settings]; exact hdelay) hbearable
      exact ih (h.moves hplays hstep)
        (prompted_of_advance hnow rfl (advance_of_step hstep)) hrun

/-- A call that follows a script comes to an end, and makes no more attempts than allowed. If it is
admitted, it makes as many as the first final result says and ends with this result; it tells what
attempts up to there tell, and its permit is settled once. If it is turned away, or would wait for
the limiter beyond the end of the clock, it sends nothing. -/
theorem tries_until_final (h : Journey f script url payload g log turn g') :
    Returns f turn g' ∧
      (∀ c, turn = .going c → c.attempts ≤ max 1 g.settings.maxAttempts) ∧
      ∀ answer, turn = .done answer →
        (∃ k, answer = .ok (outcomeOf k (script k)) ∧ Tried f script url payload g log k) ∨
        (∃ rejection, answer = .ok (.rejected rejection) ∧
          TurnedAway f script url payload g log rejection) ∨
        (answer = .error .deadlineTooFar ∧ Tale f script url payload log 0 0 0 [] []) := by
  have hstage := h.stage
  refine ⟨?_, ?_, ?_⟩
  · cases turn with
    | going c => exact returns f c g'
    | done answer => exact .ended answer g'
  · rintro c rfl
    exact hstage.attempts_le
  · rintro answer rfl
    cases hstage with
    | tried htried => exact .inl ⟨_, rfl, htried⟩
    | turnedAway hturned => exact .inr (.inl ⟨_, rfl, hturned⟩)
    | overflowed htale => exact .inr (.inr ⟨rfl, htale⟩)

/-- Three attempts, one after the other. -/
def steady : GateSettings := { retry := .constant .zero }

/-- The provider limits the rate once, and then takes the payload. -/
def slowOnce (n : ℕ) : SendResult := if n = 1 then .rateLimited "slow" none else .ok 200

/-- A call at a new gate tries twice if the provider limits the rate once. -/
theorem tries_until_final_slow_once :
    ∃ g log g', Gate.new "slack" steady = .ok g ∧
      Journey {} slowOnce "url" .null g log (.done (.ok (.delivered 2 (.ok 200)))) g' ∧
      Tried {} slowOnce "url" .null g log 2 ∧
      recount Leg.said log = [.attempt "slack", .externalRateLimit "slack" none,
        .retry "slack" 1, .attempt "slack", .success "slack"] := by
  have hrun : ((Gate.new "slack" steady).toOption.bind fun g ↦
      (rehearse {} slowOnce ({} : Clock).moment 5
        ([], .going { url := "url", payload := .null }, g)).map fun run ↦
          (run.2.1, recount Leg.said run.1)) =
      some (.done (.ok (.delivered 2 (.ok 200))),
        [.attempt "slack", .externalRateLimit "slack" none, .retry "slack" 1, .attempt "slack",
          .success "slack"]) := by
    rfl
  obtain ⟨g, hg, hrun⟩ := Option.bind_eq_some_iff.mp hrun
  obtain ⟨⟨log, turn, g'⟩, hrun, htold⟩ := Option.map_eq_some_iff.mp hrun
  obtain ⟨rfl, hsaid⟩ := Prod.mk.inj htold
  have hnew : Gate.new "slack" steady = .ok g := by
    cases hnew : Gate.new "slack" steady with
    | error reason => simp [hnew, Except.toOption] at hg
    | ok made => rw [hnew] at hg; exact congrArg _ (Option.some.inj hg)
  have hsettings : g.settings = steady := (Traffic.settings_of_new hnew).1
  have hbearable : ∀ n, ¬ ({} : Feedback).Unbearable (slowOnce n) := by
    intro n h
    have hlong := h.long
    unfold slowOnce at hlong
    split_ifs at hlong <;> exact absurd hlong (by decide)
  have hjourney := journey_of_rehearse (by decide)
    (fun n _ ↦ ⟨.zero, by rw [hsettings]; rfl, by decide⟩) hbearable .begins
    (fun c p n reply due deadline hturn hphase ↦ by cases hturn; cases hphase) hrun
  refine ⟨g, log, g', hnew, hjourney, ?_, hsaid⟩
  rcases (tries_until_final hjourney).2.2 _ rfl with
    ⟨k, hanswer, htried⟩ | ⟨_, hanswer, _⟩ | hanswer
  · have hk : k = 2 := by
      have hattempts := congrArg GateOutcome.attempts (Except.ok.inj hanswer)
      unfold outcomeOf at hattempts
      split_ifs at hattempts <;> exact hattempts.symm
    exact hk ▸ htried
  · cases hanswer
  · cases hanswer.1

end GateCall

end Courier

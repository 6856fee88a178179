import Courier.DeadLetter.Replay
import Courier.Proofs.Delivery.Law

/-!
# The conduct of a replay

`Replay.Advance` has one constructor for each way in which a replay can move, over any store: its
entry is not to be claimed, the replay misses or begins its call, the call goes on, the gate has
delivered or has not, or the entry is settled. A replay makes no other move
(`Replay.advance_of_step`). `Replay.deeds` keeps what is not reported: that the entry was claimed
(`Replay.claimed_mem_deeds_iff`), and that the replay has not delivered.

Every move balances under every law (`Law.balances_of_replay`).
-/

set_option autoImplicit false
set_option relaxedAutoImplicit false

namespace Courier

namespace Replay

variable {t : Replay} {d site : Depot}

/-- What the next move of a replay does besides what it reports, the latest first. -/
def deeds (t : Replay) (d : Depot) : List Deed :=
  match t.phase, t.step d with
  | .begun, some (.going ⟨_, .calling ..⟩, _) => [.claimed]
  | .begun, some (.going ⟨_, .settling (.abandoned failure) ..⟩, _) => [.missed failure, .claimed]
  | .calling .., some (.going ⟨_, .settling (.abandoned failure) ..⟩, _) => [.missed failure]
  | _, _ => []

/-- What the store answers to the claim of a replay. -/
def claimAnswer (t : Replay) (d : Depot) : Except StoreError DeadLetter × DeadLetterStore :=
  d.letters.transition t.id (claimable d) .processing d.moment.stamp

/-- The moves of a replay: what it turns into, the depot afterwards and what it does. -/
inductive Advance (t : Replay) (d : Depot) :
    Turn Replay (Except StoreError ReplayOutcome) → Depot → List Deed → Prop where
  /-- The entry is not claimed. -/
  | refused {reason : StoreError} {letters : DeadLetterStore} (hphase : t.phase = .begun)
      (hclaim : t.claimAnswer d = (.error reason, letters)) :
      Advance t d (.done (.error reason)) { d.tick with letters } []
  /-- The entry is claimed and does not come to its gate. -/
  | misses {e : DeadLetter} {failure : DeliveryFailure} {letters : DeadLetterStore}
      (hphase : t.phase = .begun) (hclaim : t.claimAnswer d = (.ok e, letters))
      (hearly : failure.isEarly = true ∨ ∃ message, failure = .crashed message) :
      Advance t d (t.conclude { d.tick with letters } e (.error failure)).1
        (t.conclude { d.tick with letters } e (.error failure)).2 [.missed failure, .claimed]
  /-- The entry is claimed and the replay begins its call. -/
  | opens {e : DeadLetter} {payload : Json} {letters : DeadLetterStore} (gates : GateRegistry)
      (hphase : t.phase = .begun) (hclaim : t.claimAnswer d = (.ok e, letters))
      (hgate : ∃ gate, d.gates.gate e.target.resource = .ok (gate, gates)) :
      Advance t d (.going { t with phase := .calling e { url := e.target.url, payload } })
        { d.tick with letters, gates } [.claimed]
  /-- The call goes on. -/
  | calls {e : DeadLetter} {c c' : GateCall} {site : Depot} (hphase : t.phase = .calling e c)
      (hmove : d.call e.target.resource e.target.platform c = some (.going c', site)) :
      Advance t d (.going { t with phase := .calling e c' }) site []
  /-- The gate has delivered. -/
  | delivers {e : DeadLetter} {c : GateCall} {n : ℕ} {r : SendResult} {site : Depot}
      (hphase : t.phase = .calling e c)
      (hmove : d.call e.target.resource e.target.platform c =
        some (.done (.ok (.delivered n r)), site)) :
      Advance t d (t.conclude site e (.ok n)).1 (t.conclude site e (.ok n)).2 []
  /-- The gate has not delivered. -/
  | fails {e : DeadLetter} {c : GateCall} {answer : GateCall.End} {failure : DeliveryFailure}
      {site : Depot} (hphase : t.phase = .calling e c)
      (hmove : d.call e.target.resource e.target.platform c = some (.done answer, site))
      (hfailure : GateCall.failure? answer = some failure) :
      Advance t d (t.conclude site e (.error failure)).1 (t.conclude site e (.error failure)).2
        [.missed failure]
  /-- The entry is settled, or is to be settled again. -/
  | settles {outcome : ReplayOutcome} {attempt wake : ℕ}
      {turn : Turn Replay (Except StoreError ReplayOutcome)} (letters : DeadLetterStore)
      (hphase : t.phase = .settling outcome attempt wake)
      (hturn : ∀ t', turn = .going t' → ∃ attempt wake, t'.phase = .settling outcome attempt wake) :
      Advance t d turn { d.tick with letters } []

theorem early_of_restore {e : DeadLetter} {failure : DeliveryFailure}
    (h : restore e = .error failure) : failure.isEarly = true := by
  unfold restore at h
  split at h
  · cases h
    rfl
  · simp only at h
    split at h <;> cases h
    rfl

/-- A payload is at hand, or what stands in its way is early or a crash. -/
theorem payload_cases (d : Depot) (e : DeadLetter) :
    (∃ payload, Replay.payload d e = .ok (.ok payload)) ∨
      (∃ reason, Replay.payload d e = .error reason) ∨
      ∃ failure, Replay.payload d e = .ok (.error failure) ∧
        (failure.isEarly = true ∨ ∃ message, failure = .crashed message) := by
  unfold Replay.payload
  split
  · exact .inl ⟨_, rfl⟩
  · split
    · rename_i failure h
      exact .inr (.inr ⟨failure, rfl, .inl (early_of_restore h)⟩)
    · rename_i n _
      obtain ⟨reason, heq, -⟩ | ⟨failure, heq, hbars⟩ | ⟨payload, heq, -⟩ :=
        d.render_cases n e.target
      · exact .inr (.inl ⟨reason, heq⟩)
      · exact .inr (.inr ⟨failure, heq, Law.early_or_crashed_of_bars hbars⟩)
      · exact .inl ⟨payload, heq⟩

/-- A replay that has claimed its entry misses or begins its call. -/
theorem claimed_turns (t : Replay) (d : Depot) (e : DeadLetter) :
    (∃ failure : DeliveryFailure, t.claimed d e = t.conclude d e (.error failure) ∧
      (failure.isEarly = true ∨ ∃ message, failure = .crashed message)) ∨
    ∃ payload gates gate, d.gates.gate e.target.resource = .ok (gate, gates) ∧ t.claimed d e =
      (.going { t with phase := .calling e { url := e.target.url, payload } },
        { d with gates }) := by
  unfold claimed
  obtain ⟨payload, heq⟩ | ⟨reason, heq⟩ | ⟨failure, heq, hearly⟩ := payload_cases d e
  · rw [heq]
    simp only
    split_ifs
    · exact .inl ⟨.noSender, rfl, .inl rfl⟩
    · split
      · exact .inl ⟨_, rfl, .inr ⟨_, rfl⟩⟩
      · rename_i gate gates hgate
        exact .inr ⟨payload, gates, gate, hgate, rfl⟩
  · rw [heq]
    exact .inl ⟨_, rfl, .inr ⟨_, rfl⟩⟩
  · rw [heq]
    exact .inl ⟨failure, rfl, hearly⟩

theorem advance_of_claim (hphase : t.phase = .begun) :
    t.Advance d (t.claim d).1 (t.claim d).2 (t.deeds d) := by
  have hstep : t.step d = some (t.claim d) := by rw [step, hphase]
  rcases hanswer : t.claimAnswer d with ⟨reason | e, letters⟩
  · have hclaim : t.claim d = (.done (.error reason), { d.tick with letters }) := by
      rw [claim, ← claimAnswer, hanswer]
    simp only [deeds, hphase, hstep, hclaim]
    exact .refused hphase hanswer
  · have hclaim : t.claim d = t.claimed { d.tick with letters } e := by
      rw [claim, ← claimAnswer, hanswer]
    obtain ⟨failure, hfailure, hearly⟩ | ⟨payload, gates, gate, hgate, hcall⟩ :=
      t.claimed_turns { d.tick with letters } e
    · rw [hfailure] at hclaim
      simp only [deeds, hphase, hstep, hclaim]
      exact .misses hphase hanswer hearly
    · rw [hcall] at hclaim
      simp only [deeds, hphase, hstep, hclaim]
      exact .opens gates hphase hanswer ⟨gate, hgate⟩

theorem advance_of_call {e : DeadLetter} {c : GateCall}
    {turn : Turn Replay (Except StoreError ReplayOutcome)} (hphase : t.phase = .calling e c)
    (h : t.step d = some (turn, site)) : t.Advance d turn site (t.deeds d) := by
  have hstep := h
  simp only [step, hphase] at h
  split at h
  · cases h
  · rename_i c' after hmove
    obtain ⟨rfl, rfl⟩ := Prod.mk.inj (Option.some.inj h)
    simp only [deeds, hphase, hstep]
    exact .calls hphase hmove
  · rename_i answer after hmove
    have hfails : ∀ failure, GateCall.failure? answer = some failure →
        callResult answer = .error failure → t.Advance d turn site (t.deeds d) := by
      intro failure hfailure hresult
      rw [hresult] at h
      obtain ⟨rfl, rfl⟩ := Prod.mk.inj (Option.some.inj h)
      simp only [deeds, hphase, hstep]
      exact .fails hphase hmove hfailure
    cases answer with
    | error reason => exact hfails _ rfl rfl
    | ok outcome =>
      cases outcome with
      | delivered n r =>
        obtain ⟨rfl, rfl⟩ := Prod.mk.inj (Option.some.inj h)
        simp only [deeds, hphase, hstep]
        exact .delivers hphase hmove
      | failed n r => exact hfails _ rfl rfl
      | rejected rejection => exact hfails _ rfl rfl

theorem advance_of_settle {outcome : ReplayOutcome} {attempt wake : ℕ}
    {turn : Turn Replay (Except StoreError ReplayOutcome)}
    (hphase : t.phase = .settling outcome attempt wake) (h : t.step d = some (turn, site)) :
    t.Advance d turn site (t.deeds d) := by
  have hdeeds : t.deeds d = [] := by simp only [deeds, hphase]
  rw [hdeeds]
  simp only [step, hphase] at h
  split_ifs at h
  unfold settle at h
  split at h
  · obtain ⟨rfl, rfl⟩ := Prod.mk.inj (Option.some.inj h)
    exact .settles _ hphase fun t' heq ↦ by cases heq
  · simp only at h
    split_ifs at h <;> obtain ⟨rfl, rfl⟩ := Prod.mk.inj (Option.some.inj h)
    · refine .settles _ hphase fun t' heq ↦ ?_
      obtain rfl := Turn.going.inj heq
      exact ⟨_, _, rfl⟩
    · exact .settles _ hphase fun t' heq ↦ by cases heq
  · obtain ⟨rfl, rfl⟩ := Prod.mk.inj (Option.some.inj h)
    exact .settles _ hphase fun t' heq ↦ by cases heq

/-- A replay makes no other moves. -/
theorem advance_of_step {turn : Turn Replay (Except StoreError ReplayOutcome)}
    (h : t.step d = some (turn, site)) : t.Advance d turn site (t.deeds d) := by
  cases hphase : t.phase with
  | begun =>
    have hclaim : t.claim d = (turn, site) := by
      simp only [step, hphase] at h
      exact Option.some.inj h
    simpa only [hclaim] using t.advance_of_claim (d := d) hphase
  | calling e c => exact advance_of_call hphase h
  | settling outcome attempt wake => exact advance_of_settle hphase h

/-- The store has let a replay claim its entry just if the deed was done. -/
theorem claimed_mem_deeds_iff {turn : Turn Replay (Except StoreError ReplayOutcome)}
    (h : t.step d = some (turn, site)) :
    .claimed ∈ t.deeds d ↔ t.phase = .begun ∧ ∃ e letters, t.claimAnswer d = (.ok e, letters) := by
  have hadvance := advance_of_step h
  generalize t.deeds d = deeds at hadvance ⊢
  cases hadvance with
  | refused hphase hclaim => simp [hclaim]
  | misses hphase hclaim | opens _ hphase hclaim => simp [hphase, hclaim]
  | calls hphase | delivers hphase | fails hphase | settles _ hphase => simp [hphase]

end Replay

/-! ### Laws -/

namespace Law

variable {L : Law} {d site : Depot} {t : Replay}

/-- What a replay weighs: while it is at its gate, its claim is to be answered for. -/
def replay (L : Law) : Turn Replay (Except StoreError ReplayOutcome) → ℤ
  | .going t =>
    match t.phase with
    | .calling _ c => L.inAir c - L.ended none
    | _ => 0
  | .done _ => 0

/-- A move of a replay balances. -/
theorem balances_of_replay {turn : Turn Replay (Except StoreError ReplayOutcome)}
    {deeds : List Deed} (hobserved : d.observed = true) (h : t.Advance d turn site deeds) :
    L.Balances d site deeds (L.replay (.going t)) (L.replay turn) := by
  cases h with
  | refused hphase => exact balances_of_silent rfl (by simp [replay, hphase])
  | @misses e failure letters hphase _ hearly =>
    have hevents : (t.conclude { d.tick with letters } e (.error failure)).2.events =
        [.failure e.target.resource failure] ++ d.events := by
      simp only [Replay.conclude, Depot.report_hears]
      exact Depot.hears_of_observed hobserved _
    refine ⟨_, hevents, fun hstands ↦ ?_⟩
    have hweight := weight_of_early e.target.resource hearly hstands (by simp)
    simp only [total_cons, total_nil, deed, replay, hphase, Replay.conclude, List.map_cons,
      List.map_nil, List.sum_cons, List.sum_nil]
    linarith
  | opens gates hphase =>
    refine ⟨[], rfl, fun _ ↦ ?_⟩
    simp [deed, replay, hphase, inAir, GateCall.reply?]
  | calls hphase hmove =>
    obtain ⟨-, -, -, name, said, hsays, hevents⟩ := Depot.call_says hobserved hmove
    refine ⟨said, hevents, fun _ ↦ ?_⟩
    have hweight := total_of_going (L := L) hsays
    simp only [replay, hphase, List.map_nil, List.sum_nil]
    linarith
  | delivers hphase hmove =>
    obtain ⟨-, -, -, name, said, hsays, hevents⟩ := Depot.call_says hobserved hmove
    refine ⟨said, hevents, fun _ ↦ ?_⟩
    have hweight := total_of_delivered (L := L) hsays
    simp only [replay, hphase, Replay.conclude, List.map_nil, List.sum_nil]
    linarith
  | @fails e c answer failure after hphase hmove hfailure =>
    obtain ⟨hobserved', -, -, name, said, hsays, hevents⟩ := Depot.call_says hobserved hmove
    have hheard : (t.conclude after e (.error failure)).2.events =
        (.failure e.target.resource failure :: said) ++ d.events := by
      simp only [Replay.conclude, Depot.report_hears]
      rw [Depot.hears_of_observed hobserved', hevents]
      rfl
    refine ⟨_, hheard, fun hstands ↦ ?_⟩
    have hweight := total_of_failed e.target.resource hsays hfailure hstands List.mem_cons_self
    simp only [total_cons, deed, replay, hphase, Replay.conclude, List.map_cons, List.map_nil,
      List.sum_cons, List.sum_nil]
    linarith
  | @settles _ _ _ turn letters hphase hturn =>
    refine balances_of_silent rfl ?_
    cases turn with
    | done result => simp [replay, hphase]
    | going t' =>
      obtain ⟨attempt, wake, hphase'⟩ := hturn t' rfl
      simp [replay, hphase, hphase']

end Law

end Courier

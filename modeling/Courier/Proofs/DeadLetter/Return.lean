import Courier.Proofs.DeadLetter.Settling
import Courier.Proofs.Delivery.Return

/-!
# Replays return

A replay relies on no more of others than a delivery does (`Depot.Upholds`), and leaves them the
same (`Replay.upholds_of_advance`). Once its deadlines have passed it can move
(`Replay.moves_of_deadlines`), and it cannot go on for ever: behind its claim it has as many moves
as its call at the gate and the attempts to settle its entry take (`Replay.remaining`).

So the replays of all pending entries return, over any store and whatever others do meanwhile
(`ReplayAll.returns`). The measure has two parts, the entries that are still to be claimed and the
moves that the replay under way has left.
-/

set_option autoImplicit false
set_option relaxedAutoImplicit false

namespace Courier

/-- Senders and gates are what they were, but that a gate may have been made. -/
theorem Depot.upholds_of_keeps {d d' : Depot} (hobserved : d'.observed = d.observed)
    (hclock : d'.clock.now = d.clock.now) (hsenders : d'.senders = d.senders)
    (hgates : d.gates.Keeps d'.gates) : d.Upholds d' :=
  ⟨hobserved, Nat.le_of_eq hclock.symm, fun _ hsome ↦ hsenders ▸ hsome, hgates⟩

namespace Replay

variable {t t' : Replay} {d d' : Depot} {turn : Turn Replay (Except StoreError ReplayOutcome)}
  {deeds : List Deed}

theorem conclude_upholds (t : Replay) (d : Depot) (e : DeadLetter)
    (result : Except DeliveryFailure ℕ) : d.Upholds (t.conclude d e result).2 := by
  cases result with
  | ok attempts => exact Depot.upholds_of_keeps rfl rfl rfl (.refl _)
  | error failure =>
    obtain ⟨events, hevents⟩ := d.report_eq (.failure e.target.resource failure)
    rw [conclude, hevents]
    exact Depot.upholds_of_keeps rfl rfl rfl (.refl _)

/-- A move of a replay leaves others what they rely on. -/
theorem upholds_of_advance (horderly : d.gates.Orderly) (h : t.Advance d turn d' deeds) :
    d.Upholds d' := by
  cases h with
  | refused | settles => exact Depot.upholds_of_keeps rfl rfl rfl (.refl _)
  | @misses e failure letters =>
    have hclaim : d.Upholds { d.tick with letters } :=
      Depot.upholds_of_keeps rfl rfl rfl (.refl _)
    exact hclaim.trans (t.conclude_upholds _ e _)
  | opens gates _ _ hgate =>
    obtain ⟨gate, hgate⟩ := hgate
    exact Depot.upholds_of_keeps rfl rfl rfl (GateRegistry.keeps_of_gate hgate).1
  | calls _ hmove => exact Depot.upholds_of_call horderly hmove
  | delivers _ hmove | fails _ hmove =>
    exact (Depot.upholds_of_call horderly hmove).trans (t.conclude_upholds _ _ _)

/-- A replay that has come to its gate finds gate and sender. -/
def Ready (t : Replay) (d : Depot) : Prop :=
  ∀ e c, t.phase = .calling e c →
    (d.gates.get? e.target.resource).isSome ∧ (d.senders.get? e.target.platform).isSome

theorem Ready.upholds (h : t.Ready d) (hupholds : d.Upholds d') : t.Ready d' := by
  intro e c hphase
  obtain ⟨hgate, hsender⟩ := h e c hphase
  obtain ⟨g, hg⟩ := Option.isSome_iff_exists.mp hgate
  obtain ⟨g', hg', -⟩ := hupholds.gates.gates _ g hg
  exact ⟨Option.isSome_iff_exists.mpr ⟨g', hg'⟩, hupholds.senders _ hsender⟩

theorem ready_of_conclude {e : DeadLetter} {result : Except DeliveryFailure ℕ} {site : Depot}
    (h : t.conclude d e result = (.going t', site)) : t'.Ready site := by
  cases result <;>
  · obtain ⟨hturn, -⟩ := Prod.mk.inj h
    obtain rfl := Turn.going.inj hturn
    exact fun _ _ hphase ↦ absurd hphase (by simp)

/-- A replay whose entry was claimed calls only a sender that is there, through a gate that is
there. -/
theorem ready_of_claimed {e : DeadLetter} {site : Depot}
    (h : t.claimed d e = (.going t', site)) : t'.Ready site := by
  unfold claimed at h
  split at h
  · exact ready_of_conclude h
  · exact ready_of_conclude h
  · split_ifs at h with hsender
    · exact ready_of_conclude h
    · split at h
      · exact ready_of_conclude h
      · rename_i gate gates hgate
        obtain ⟨hturn, rfl⟩ := Prod.mk.inj h
        obtain rfl := Turn.going.inj hturn
        intro e' c hphase
        obtain ⟨rfl, -⟩ := Replay.Phase.calling.inj hphase
        exact ⟨Option.isSome_iff_exists.mpr ⟨gate, (GateRegistry.keeps_of_gate hgate).2⟩,
          by simpa [Option.isNone_iff_eq_none, Option.isSome_iff_ne_none] using hsender⟩

/-- A replay that goes on finds gate and sender. -/
theorem ready_of_step (hready : t.Ready d) (horderly : d.gates.Orderly)
    (hstep : t.step d = some (.going t', d')) : t'.Ready d' := by
  have hadvance := advance_of_step hstep
  have hupholds := upholds_of_advance horderly hadvance
  cases hphase : t.phase with
  | begun =>
    rw [step, hphase] at hstep
    have hclaim : t.claim d = (.going t', d') := Option.some.inj hstep
    rw [claim] at hclaim
    split at hclaim
    · exact absurd (Prod.mk.inj hclaim).1 (by simp)
    · exact ready_of_claimed hclaim
  | calling e c =>
    rw [step, hphase] at hstep
    simp only at hstep
    split at hstep
    · exact absurd hstep (by simp)
    · obtain ⟨hturn, -⟩ := Prod.mk.inj (Option.some.inj hstep)
      obtain rfl := Turn.going.inj hturn
      intro e' c' hphase'
      obtain ⟨rfl, -⟩ := Replay.Phase.calling.inj hphase'
      exact hready.upholds hupholds e c hphase
    · exact ready_of_conclude (Option.some.inj hstep)
  | settling outcome attempt wake =>
    obtain ⟨-, c, -, -, ⟨-, -, hturn⟩ | ⟨-, hturn⟩⟩ := settle_cases hphase hstep
    · obtain rfl := Turn.going.inj hturn
      exact fun _ _ hphase' ↦ absurd hphase' (by simp)
    · exact absurd hturn (by simp)

/-- A bound on the moves that a replay has left behind its claim. -/
def remaining (d : Depot) (t : Replay) : ℕ :=
  match t.phase with
  | .begun => 0
  | .calling e c =>
    match d.gates.get? e.target.resource with
    | some g => c.remaining g + settleAttempts + 2
    | none => 0
  | .settling _ attempt _ => settleAttempts + 1 - attempt

theorem remaining_of_upholds (hready : t.Ready d) (hupholds : d.Upholds d') :
    t.remaining d' = t.remaining d := by
  cases hphase : t.phase with
  | begun | settling => simp only [remaining, hphase]
  | calling e c =>
    obtain ⟨g, hg⟩ := Option.isSome_iff_exists.mp (hready e c hphase).1
    obtain ⟨g', hg', hmatches⟩ := hupholds.gates.gates _ g hg
    simp only [remaining, hphase, hg, hg', GateCall.remaining_of_matches hmatches]

theorem phase_of_conclude (t : Replay) (d : Depot) (e : DeadLetter)
    (result : Except DeliveryFailure ℕ) (h : (t.conclude d e result).1 = .going t') :
    t'.phase ≠ .begun := by
  cases result <;>
  · obtain rfl := Turn.going.inj h
    simp

/-- A replay that has moved is behind its claim. -/
theorem phase_of_step (hstep : t.step d = some (.going t', d')) : t'.phase ≠ .begun := by
  have hadvance := advance_of_step hstep
  generalize hturn : (Turn.going t' : Turn Replay (Except StoreError ReplayOutcome)) = turn
    at hadvance
  generalize t.deeds d = deeds at hadvance
  cases hadvance with
  | refused => exact absurd hturn (by simp)
  | misses | delivers | fails => exact phase_of_conclude _ _ _ _ hturn.symm
  | opens | calls =>
    obtain rfl := Turn.going.inj hturn
    simp
  | settles _ _ hsettling =>
    obtain ⟨attempt, wake, hphase⟩ := hsettling t' hturn.symm
    simp [hphase]

/-- Behind its claim a replay has fewer moves left after each of them. -/
theorem remaining_of_step (horderly : d.gates.Orderly) (hphase : t.phase ≠ .begun)
    (hstep : t.step d = some (.going t', d')) : t'.remaining d' < t.remaining d := by
  cases hat : t.phase with
  | begun => exact absurd hat hphase
  | calling e c =>
    rw [step, hat] at hstep
    simp only at hstep
    split at hstep
    · exact absurd hstep (by simp)
    · rename_i c' site hmove
      obtain ⟨hturn, rfl⟩ := Prod.mk.inj (Option.some.inj hstep)
      obtain rfl := Turn.going.inj hturn
      have hupholds := Depot.upholds_of_call horderly hmove
      obtain ⟨gate, sender, scene, hgate, -, hadvance, -⟩ := Depot.call_hears hmove
      obtain ⟨gate', hgate', hmatches⟩ := hupholds.gates.gates _ gate hgate
      have hless := GateCall.remaining_of_advance (GateCall.advance_of_step hadvance)
      simp only [remaining, hat, hgate, hgate', GateCall.remaining_of_matches hmatches]
      exact Nat.add_lt_add_right (Nat.add_lt_add_right hless _) _
    · rename_i result site hmove
      obtain ⟨gate, sender, scene, hgate, -⟩ := Depot.call_hears hmove
      simp only [remaining, hat, hgate]
      cases hresult : callResult result <;>
      · rw [hresult] at hstep
        obtain ⟨hturn, -⟩ := Prod.mk.inj (Option.some.inj hstep)
        obtain rfl := Turn.going.inj hturn
        simp only
        omega
  | settling outcome attempt wake =>
    obtain ⟨-, c, -, -, ⟨-, hleft, hturn⟩ | ⟨-, hturn⟩⟩ := settle_cases hat hstep
    · obtain rfl := Turn.going.inj hturn
      simp only [remaining, hat]
      omega
    · exact absurd hturn (by simp)

/-- Once its deadlines have passed, a replay can move. -/
theorem moves_of_deadlines (hready : t.Ready d) (h : ∀ i ∈ t.deadlines, i ≤ d.clock.now) :
    (t.step d).isSome := by
  cases hphase : t.phase with
  | begun => simp [step, hphase]
  | calling e c =>
    obtain ⟨hgate, hsender⟩ := hready e c hphase
    obtain ⟨gate, hgate⟩ := Option.isSome_iff_exists.mp hgate
    obtain ⟨sender, hsender⟩ := Option.isSome_iff_exists.mp hsender
    have hdeadlines : ∀ i ∈ c.deadlines, i ≤ d.moment.now := by
      simp only [deadlines, hphase] at h
      exact h
    have hmove := Depot.call_isSome hgate hsender
      (GateCall.moves_of_deadlines hdeadlines d.gates.feedback { gate, sender })
    obtain ⟨⟨turn, site⟩, hmove⟩ := Option.isSome_iff_exists.mp hmove
    simp only [step, hphase, hmove]
    cases turn <;> rfl
  | settling outcome attempt wake =>
    have hwake : wake ≤ d.clock.now := h wake (by simp [deadlines, hphase])
    simp [step, hphase, hwake]

end Replay

/-! ### The replays of all pending entries -/

namespace ReplayAll

variable {t : ReplayAll} {d d' : Depot} {waiting : List EntryId} {current : Option Replay}
  {summary : ReplaySummary}

/-- The replays of all pending entries return, whatever others do meanwhile: they have, or they can
go on whenever their deadlines have passed, and return after each move that they may make. -/
inductive Returns : Turn ReplayAll (Except StoreError ReplaySummary) → Depot → Prop where
  | ended (result : Except StoreError ReplaySummary) (d : Depot) : Returns (.done result) d
  | going {t : ReplayAll} {d : Depot}
      (hmoves : ∀ d', d.Upholds d' → (∀ i ∈ t.deadlines, i ≤ d'.clock.now) → (t.step d').isSome)
      (hreturns : ∀ d' next site, d.Upholds d' → t.step d' = some (next, site) →
        Returns next site) :
      Returns (.going t) d

/-- What is to be done for the entries but for the calls through their gates. -/
def workload (waiting : List EntryId) : Option Replay → ℕ
  | none => 3 * waiting.length
  | some t =>
    match t.phase with
    | .begun => 3 * waiting.length + 2
    | _ => 3 * waiting.length + 1

/-- A bound on the moves that the replay under way has left behind its claim. -/
def movesLeft (d : Depot) : Option Replay → ℕ
  | none => 0
  | some t => t.remaining d

theorem workload_of_claimed {t : Replay} (hphase : t.phase ≠ .begun) :
    workload waiting (some t) = 3 * waiting.length + 1 := by
  rw [workload]
  split
  · rename_i hbegun
    exact absurd hbegun hphase
  · rfl

theorem lt_workload (t : Replay) : workload waiting none < workload waiting (some t) := by
  rw [workload, workload]
  split <;> omega

/-- A move of the replay under way that does not end it. -/
theorem measure_of_step {t t' : Replay} (horderly : d.gates.Orderly)
    (hstep : t.step d = some (.going t', d')) :
    workload waiting (some t') < workload waiting (some t) ∨
      workload waiting (some t') = workload waiting (some t) ∧
        t'.remaining d' < t.remaining d := by
  rw [workload_of_claimed (Replay.phase_of_step hstep)]
  by_cases hphase : t.phase = .begun
  · rw [workload, hphase]
    exact .inl (Nat.lt_succ_self _)
  · rw [workload_of_claimed hphase]
    exact .inr ⟨rfl, Replay.remaining_of_step horderly hphase hstep⟩

/-- Once its deadlines have passed, the replay under way can move. -/
theorem moves_of_deadlines (hready : ∀ t ∈ current, t.Ready d)
    (h : ∀ i ∈ deadlines (.replaying waiting current summary), i ≤ d.clock.now) :
    (step (.replaying waiting current summary) d).isSome := by
  cases current with
  | none => cases waiting <;> rfl
  | some t =>
    obtain ⟨⟨turn, site⟩, hmove⟩ := Option.isSome_iff_exists.mp
      (Replay.moves_of_deadlines (hready t rfl) h)
    rw [step, hmove]
    cases turn with
    | going t' => rfl
    | done result =>
      simp only
      split <;> rfl

/-- Replays under way end. The measure is what `measure_of_step` makes smaller. -/
theorem returns_of_replaying (hready : ∀ t ∈ current, t.Ready d) (horderly : d.gates.Orderly) :
    Returns (.going (.replaying waiting current summary)) d := by
  generalize hmeasure : toLex (workload waiting current, movesLeft d current) = measure
  induction measure using WellFoundedLT.induction generalizing waiting current summary d with
  | ind measure ih =>
    refine .going (fun d' hupholds ↦ moves_of_deadlines fun t ht ↦ (hready t ht).upholds hupholds)
      fun d' next site hupholds hstep ↦ ?_
    have horderly' := hupholds.gates.orderly horderly
    subst hmeasure
    cases current with
    | none =>
      cases waiting with
      | nil =>
        obtain ⟨rfl, rfl⟩ := Prod.mk.inj (Option.some.inj hstep)
        exact .ended _ _
      | cons id waiting =>
        obtain ⟨rfl, rfl⟩ := Prod.mk.inj (Option.some.inj hstep)
        refine ih _ (Prod.Lex.toLex_lt_toLex.mpr (.inl ?_)) (fun t ht ↦ ?_) horderly' rfl
        · show 3 * waiting.length + 2 < 3 * (waiting.length + 1)
          omega
        · obtain rfl := Option.some.inj ht
          exact fun _ _ hphase ↦ absurd hphase (by simp)
    | some t =>
      have hready' := (hready t rfl).upholds hupholds
      rw [step] at hstep
      split at hstep
      · exact absurd hstep (by simp)
      · rename_i t' after hmove
        obtain ⟨rfl, rfl⟩ := Prod.mk.inj (Option.some.inj hstep)
        have hmoved := Replay.upholds_of_advance horderly' (Replay.advance_of_step hmove)
        refine ih _ (Prod.Lex.toLex_lt_toLex.mpr ?_) (fun u hu ↦ ?_)
          (hmoved.gates.orderly horderly') rfl
        · -- what others do leaves the measure as it is, so the move is compared with the depot
          -- it finds
          show _ ∨ _ ∧ _ < t.remaining d
          rw [← Replay.remaining_of_upholds (hready t rfl) hupholds]
          exact measure_of_step horderly' hmove
        · obtain rfl := Option.some.inj hu
          exact Replay.ready_of_step hready' horderly' hmove
      · rename_i result after hmove
        have hmoved := Replay.upholds_of_advance horderly' (Replay.advance_of_step hmove)
        split at hstep <;> obtain ⟨rfl, rfl⟩ := Prod.mk.inj (Option.some.inj hstep)
        · exact .ended _ _
        · exact ih _ (Prod.Lex.toLex_lt_toLex.mpr (.inl (lt_workload t))) (by simp)
            (hmoved.gates.orderly horderly') rfl

/-- The replays of all pending entries return. -/
theorem returns (horderly : d.gates.Orderly) : Returns (.going .begun) d := by
  refine .going (fun d' _ _ ↦ ?_) fun d' next site hupholds hstep ↦ ?_
  · rw [step]
    split <;> rfl
  · rw [step] at hstep
    split at hstep <;> obtain ⟨rfl, rfl⟩ := Prod.mk.inj (Option.some.inj hstep)
    · exact .ended _ _
    · exact returns_of_replaying (by simp) (hupholds.gates.orderly horderly)

end ReplayAll

end Courier

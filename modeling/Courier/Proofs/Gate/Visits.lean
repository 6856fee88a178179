import Courier.Proofs.CircuitBreaker.Custody
import Courier.Proofs.Gate.Advance
import Courier.Proofs.Gate.Slots

/-!
# Calls, their slots and their permits

Where a call stands at the bulkhead and which permit it holds is read off its phase
(`GateCall.standing`, `GateCall.permit?`). A call that moves, or is dropped, changes place at the
bulkhead in one `Passage` (`GateCall.passage_of_advance`, `GateCall.passage_of_cancel`) and deals
with the breaker in one of three ways (`GateCall.Deals`).

`Visit.dealings` is what a call did to the breaker, read off the call before and after a move;
`Deals.ledger` says that this is what happened to the breaker, `Deals.watched` that the breaker goes
on counting the trials that are held, and `Deals.bill` that a call is granted one permit, which is
settled once, as the call ended.
-/

set_option autoImplicit false
set_option relaxedAutoImplicit false

namespace Courier

open Rehearsal (Settlement)

/-! ### Dealings with a breaker -/

/-- What a call does to a breaker. -/
inductive Dealing where
  | granted (p : CallPermit) (now : ℕ)
  | settled (p : CallPermit) (how : Settlement) (now : ℕ)
  deriving DecidableEq, Repr

namespace Dealing

/-- A permit is settled. -/
def isSettlement : Dealing → Bool
  | granted .. => false
  | settled .. => true

/-- What becomes of a breaker. -/
inductive Turns (b : CircuitBreaker) : Dealing → CircuitBreaker → Prop where
  | granted {p : CallPermit} {now : ℕ} {b' : CircuitBreaker}
      (hacquire : b.acquire now = (some p, b')) : Turns b (.granted p now) b'
  | settled (p : CallPermit) (how : Settlement) (now : ℕ) :
      Turns b (.settled p how now) (how.apply b p now).2

end Dealing

/-- What becomes of a breaker by some dealings, the latest first, one after the other. -/
inductive Dealt (start : CircuitBreaker) : List Dealing → CircuitBreaker → Prop where
  | nil : Dealt start [] start
  | cons {d : Dealing} {log : List Dealing} {b b' : CircuitBreaker} (hlog : Dealt start log b)
      (hturns : d.Turns b b') : Dealt start (d :: log) b'

theorem Dealt.append {start b b' : CircuitBreaker} {log more : List Dealing}
    (h : Dealt start log b) (hmore : Dealt b more b') : Dealt start (more ++ log) b' := by
  induction hmore with
  | nil => exact h
  | cons _ hturns ih => exact .cons ih hturns

/-- A breaker counts the permits that are out. -/
def Watched (b : CircuitBreaker) (permits : List CallPermit) : Prop :=
  ∃ c : Custody, c.Sound ∧ c.breaker = b ∧ (c.held.map HeldPermit.permit).Perm permits

namespace Watched

variable {b b' : CircuitBreaker} {p : CallPermit} {permits permits' : List CallPermit}

theorem start {s : BreakerSettings} (hvalid : s.invalid? = none) :
    Watched { settings := s } [] :=
  ⟨_, Custody.start_sound hvalid, rfl, .refl _⟩

theorem perm (h : Watched b permits) (hperm : permits.Perm permits') : Watched b permits' := by
  obtain ⟨c, hs, hbreaker, hheld⟩ := h
  exact ⟨c, hs, hbreaker, hheld.trans hperm⟩

/-- The trials under way are the permits of the present period that are trials. -/
theorem trials_eq (h : Watched b permits) :
    b.trials = permits.countP fun p ↦ p.trial && decide (p.period = b.period) := by
  obtain ⟨c, hs, rfl, hheld⟩ := h
  rw [hs.trials_eq, ← hheld.countP_eq, List.countP_map]
  rfl

theorem granted {now : ℕ} (h : Watched b permits) (hvalid : b.settings.invalid? = none)
    (hacquire : b.acquire now = (some p, b')) : Watched b' (p :: permits) := by
  obtain ⟨c, hs, rfl, hheld⟩ := h
  have hnow : Custody.Sound { c with now } := { hs with }
  have hacquired := hnow.acquire hvalid
  simp only [Custody.acquire, hacquire] at hacquired
  exact ⟨_, hacquired, rfl, hheld.cons p⟩

theorem settled (h : Watched b (p :: permits)) (hvalid : b.settings.invalid? = none)
    (how : Settlement) (now : ℕ) : Watched (how.apply b p now).2 permits := by
  obtain ⟨c, hs, rfl, hheld⟩ := h
  obtain ⟨held, hmem, rfl⟩ := List.mem_map.mp (hheld.mem_iff.mpr List.mem_cons_self)
  obtain ⟨place, hlt, rfl⟩ := List.getElem_of_mem hmem
  have hnow : Custody.Sound { c with now } := { hs with }
  have hsettled := hnow.settle hvalid place how
  simp only [Custody.settle, List.getElem?_eq_getElem hlt] at hsettled
  have hperm := (List.getElem_cons_eraseIdx_perm hlt).map HeldPermit.permit
  exact ⟨_, hsettled, rfl, (hperm.trans hheld).cons_inv⟩

end Watched

/-! ### Calls and what they hold -/

namespace GateCall

/-- Where a call stands. -/
def standing (c : GateCall) : Standing :=
  match c.phase with
  | .entering wait => wait.standing
  | _ => .inside

/-- The permit that a call holds. -/
def permit? (c : GateCall) : Option CallPermit :=
  match c.phase with
  | .sending p .. => some p
  | .backingOff p .. => some p
  | _ => none

end GateCall

/-- A call that came to a gate. -/
inductive Visit where
  | going (c : GateCall)
  | ended (answer : GateCall.End)
  | dropped

namespace Visit

/-- A call after a move. -/
def ofTurn : Turn GateCall GateCall.End → Visit
  | .going c => going c
  | .done answer => ended answer

/-- Where the caller stands. -/
def standing : Visit → Standing
  | going c => c.standing
  | _ => .outside

/-- The permits that are held. -/
def permits : Visit → List CallPermit
  | going c => c.permit?.toList
  | _ => []

/-- The call is over. -/
def isOver : Visit → Bool
  | going _ => false
  | _ => true

/-- The call got no slot. -/
abbrev turnedAway : Visit := ended (.ok (.rejected .bulkheadFull))

/-- The call has ended delivered or failed. -/
def isAnswered : Visit → Bool
  | ended (.ok (.delivered ..)) => true
  | ended (.ok (.failed ..)) => true
  | _ => false

/-- What becomes of the permit of a call that is over, if it has one. -/
def settlement? : Visit → Option Settlement
  | going _ => none
  | ended (.ok (.delivered ..)) => some .succeed
  | ended (.ok (.failed ..)) => some .fail
  | ended (.ok (.rejected _)) => none
  | ended (.error _) => some .drop
  | dropped => some .drop

/-- What a call does to the breaker when it becomes another: it is granted a permit, or the one that
it holds is settled. -/
def dealings (now : ℕ) (c : GateCall) (v : Visit) : List Dealing :=
  match c.permit?, v.permits, v.settlement? with
  | none, p :: _, _ => [.granted p now]
  | some p, _, some how => [.settled p how now]
  | _, _, _ => []

/-- All that a call did to the breaker, the latest first. -/
inductive Bill : Visit → List Dealing → Prop where
  /-- It has no permit and never had one. -/
  | unadmitted {v : Visit} (hpermits : v.permits = [])
      (hsettlement : v.settlement? = none ∨ v.settlement? = some .drop) : Bill v []
  /-- It holds the permit that it was granted. -/
  | holding {c : GateCall} {p : CallPermit} {now : ℕ} (hpermit : c.permit? = some p) :
      Bill (going c) [.granted p now]
  /-- It is over, and the permit that it was granted is settled as it ended. -/
  | settled {v : Visit} {p : CallPermit} {how : Settlement} {now since : ℕ}
      (hsettlement : v.settlement? = some how) : Bill v [.settled p how now, .granted p since]

theorem Bill.settlements_le {v : Visit} {log : List Dealing} (h : v.Bill log) :
    log.countP Dealing.isSettlement ≤ 1 := by
  cases h with
  | unadmitted => exact Nat.zero_le _
  | holding => exact Nat.zero_le _
  | settled => exact Nat.le_refl _

theorem Bill.settlements_eq {v : Visit} {log : List Dealing} (h : v.Bill log)
    (hanswered : v.isAnswered = true) : log.countP Dealing.isSettlement = 1 := by
  cases h with
  | unadmitted _ hsettlement =>
    unfold isAnswered at hanswered
    split at hanswered <;> simp [settlement?] at hsettlement hanswered
  | holding => simp [isAnswered] at hanswered
  | settled => rfl

/-- A call that is over stays as it is, and one that is inside is not turned away any more. -/
structure Leads (v v' : Visit) : Prop where
  gone : v.isOver = true → v' = v
  entered : v.standing = .inside →
    v'.standing = .inside ∨ v'.isOver = true ∧ v' ≠ turnedAway

theorem Leads.refl (v : Visit) : v.Leads v := ⟨fun _ ↦ rfl, .inl⟩

theorem Leads.trans {v v' v'' : Visit} (h : v.Leads v') (h' : v'.Leads v'') : v.Leads v'' := by
  refine ⟨fun hover ↦ ?_, fun hinside ↦ ?_⟩
  · obtain rfl := h.gone hover
    exact h'.gone hover
  · rcases h.entered hinside with hinside | ⟨hover, hne⟩
    · exact h'.entered hinside
    · rw [h'.gone hover]
      exact .inr ⟨hover, hne⟩

end Visit

namespace GateCall

/-- What a move of a call does to the breaker. -/
inductive Deals (now : ℕ) (c : GateCall) (b : CircuitBreaker) : Visit → CircuitBreaker → Prop where
  /-- The call keeps its permit or has none. -/
  | keeps {v : Visit} (hpermits : v.permits = c.permit?.toList)
      (hsettlement : v.settlement? = none ∨ c.permit? = none ∧ v.settlement? = some .drop) :
      Deals now c b v b
  | granted {c' : GateCall} {p : CallPermit} {b' : CircuitBreaker} (hnone : c.permit? = none)
      (hpermit : c'.permit? = some p) (hacquire : b.acquire now = (some p, b')) :
      Deals now c b (.going c') b'
  | settled {v : Visit} {p : CallPermit} (how : Settlement) (hpermit : c.permit? = some p)
      (hsettlement : v.settlement? = some how) : Deals now c b v (how.apply b p now).2

variable {f : Feedback} {m : Moment} {c : GateCall} {s scene : GateScene} {now : ℕ}
  {turn : Turn GateCall GateCall.End}

/-- A refusal leaves the breaker as it is. -/
theorem breaker_of_refused {b b' : CircuitBreaker} (h : b.acquire now = (none, b')) : b' = b := by
  unfold CircuitBreaker.acquire at h
  split at h
  · cases h
  · split_ifs at h
    · cases h
    · exact (Prod.mk.inj h).2.symm
  · split_ifs at h
    · exact (Prod.mk.inj h).2.symm
    · cases h

theorem gate_of_heeded (h : s.Heeded scene) :
    scene.gate.bulkhead = s.gate.bulkhead ∧ scene.gate.breaker = s.gate.breaker := by
  cases h <;> exact ⟨rfl, rfl⟩

/-- A call changes place at the bulkhead as those do who want a slot. -/
theorem passage_of_advance (h : Advance f m c s turn scene) :
    Bulkhead.Passage s.gate.bulkhead c.standing scene.gate.bulkhead
      (Visit.ofTurn turn).standing := by
  unfold standing
  cases h with
  | queues hphase hwait =>
    rw [hphase]
    exact SlotWait.passage_of_step hwait
  | enters hphase hwait =>
    rw [hphase]
    exact SlotWait.passage_of_step hwait
  | full hphase hwait =>
    rw [hphase]
    exact SlotWait.passage_of_step hwait
  | polls hphase =>
    rw [hphase]
    exact .stays _
  | limited hphase =>
    rw [hphase]
    exact .leaves
  | overflows hphase =>
    rw [hphase]
    exact .leaves
  | skipped hphase =>
    rw [hphase]
    exact .leaves
  | admitted hphase =>
    rw [hphase]
    exact .stays _
  | delivers hphase =>
    rw [hphase]
    exact .leaves
  | retries hphase hheeded =>
    rw [hphase, ← (gate_of_heeded hheeded).1]
    exact .stays _
  | fails hphase hfailure hheeded =>
    rw [hphase, ← (gate_of_heeded hheeded).1]
    exact .leaves
  | crashes hphase hheeded =>
    rw [hphase, ← (gate_of_heeded hheeded).1]
    exact .leaves
  | resumes hphase =>
    rw [hphase]
    exact .stays _

theorem deals_of_advance (h : Advance f m c s turn scene) :
    Deals m.now c s.gate.breaker (Visit.ofTurn turn) scene.gate.breaker := by
  have hpermit : ∀ {phase}, c.phase = phase → c.permit? = permit? { c with phase } := by
    intro phase hphase
    rw [← hphase]
  cases h with
  | queues hphase => exact .keeps (by rw [hpermit hphase]; rfl) (.inl rfl)
  | enters hphase => exact .keeps (by rw [hpermit hphase]; rfl) (.inl rfl)
  | full hphase => exact .keeps (by rw [hpermit hphase]; rfl) (.inl rfl)
  | polls hphase => exact .keeps (by rw [hpermit hphase]; rfl) (.inl rfl)
  | limited hphase => exact .keeps (by rw [hpermit hphase]; rfl) (.inl rfl)
  | overflows hphase =>
    exact .keeps (by rw [hpermit hphase]; rfl) (.inr ⟨hpermit hphase, rfl⟩)
  | skipped hphase hadmission hbreaker =>
    obtain rfl := breaker_of_refused hbreaker
    exact .keeps (by rw [hpermit hphase]; rfl) (.inl rfl)
  | admitted hphase hadmission hbreaker => exact .granted (hpermit hphase) rfl hbreaker
  | delivers hphase => exact .settled .succeed (hpermit hphase) rfl
  | retries hphase hheeded =>
    rw [← (gate_of_heeded hheeded).2]
    exact .keeps (by rw [hpermit hphase]; rfl) (.inl rfl)
  | fails hphase hfailure hheeded =>
    rw [← (gate_of_heeded hheeded).2]
    exact .settled .fail (hpermit hphase) rfl
  | crashes hphase hheeded =>
    rw [← (gate_of_heeded hheeded).2]
    exact .settled .drop (hpermit hphase) rfl
  | resumes hphase => exact .keeps (by rw [hpermit hphase]; rfl) (.inl rfl)

/-- A call that is dropped gives back what it has. -/
theorem passage_of_cancel :
    Bulkhead.Passage s.gate.bulkhead c.standing (c.cancel s).gate.bulkhead .outside := by
  cases hphase : c.phase with
  | entering wait =>
    simp only [standing, cancel, hphase]
    exact SlotWait.passage_of_cancel
  | pacing admission =>
    simp only [standing, cancel, hphase]
    exact .leaves
  | sending p n reply due deadline =>
    simp only [standing, cancel, hphase]
    exact .leaves
  | backingOff p n wake =>
    simp only [standing, cancel, hphase]
    exact .leaves

theorem deals_of_cancel :
    Deals now c s.gate.breaker .dropped (c.cancel s).gate.breaker := by
  unfold cancel
  split
  · rename_i hphase
    exact .keeps (by simp [Visit.permits, permit?, hphase]) (.inr ⟨by simp [permit?, hphase], rfl⟩)
  · rename_i hphase
    exact .keeps (by simp [Visit.permits, permit?, hphase]) (.inr ⟨by simp [permit?, hphase], rfl⟩)
  · rename_i hphase
    exact .settled .drop (by simp [permit?, hphase]) rfl
  · rename_i hphase
    exact .settled .drop (by simp [permit?, hphase]) rfl

/-- A call that is inside is not turned away. -/
theorem leads_of_advance (h : Advance f m c s turn scene) :
    (Visit.going c).Leads (.ofTurn turn) := by
  refine ⟨fun hover ↦ absurd hover Bool.false_ne_true, fun hinside ↦ ?_⟩
  have hentered : ∀ wait, c.phase ≠ .entering wait := by
    intro wait hphase
    simp only [Visit.standing, standing, hphase] at hinside
    cases wait <;> cases hinside
  cases h with
  | queues hphase => exact absurd hphase (hentered _)
  | enters hphase => exact absurd hphase (hentered _)
  | full hphase => exact absurd hphase (hentered _)
  | polls => exact .inl rfl
  | limited => exact .inr ⟨rfl, by simp [Visit.ofTurn]⟩
  | overflows => exact .inr ⟨rfl, by simp [Visit.ofTurn]⟩
  | skipped => exact .inr ⟨rfl, by simp [Visit.ofTurn]⟩
  | admitted => exact .inl rfl
  | delivers => exact .inr ⟨rfl, by simp [Visit.ofTurn]⟩
  | retries => exact .inl rfl
  | fails => exact .inr ⟨rfl, by simp [Visit.ofTurn]⟩
  | crashes => exact .inr ⟨rfl, by simp [Visit.ofTurn]⟩
  | resumes => exact .inl rfl

theorem leads_of_cancel : (Visit.going c).Leads .dropped :=
  ⟨fun hover ↦ absurd hover Bool.false_ne_true, fun _ ↦ .inr ⟨rfl, Visit.noConfusion⟩⟩

variable {v : Visit} {b b' : CircuitBreaker}

theorem dealings_of_keeps (hpermits : v.permits = c.permit?.toList)
    (hsettlement : v.settlement? = none ∨ c.permit? = none ∧ v.settlement? = some .drop) :
    Visit.dealings now c v = [] := by
  cases hpermit : c.permit? with
  | none => simp [Visit.dealings, hpermit, hpermits]
  | some p =>
    obtain hnone | ⟨hnone, -⟩ := hsettlement
    · simp [Visit.dealings, hpermit, hnone]
    · simp [hpermit] at hnone

theorem permits_of_settlement {how : Settlement} (h : v.settlement? = some how) :
    v.permits = [] := by
  cases v with
  | going c => cases h
  | ended answer => rfl
  | dropped => rfl

/-- What is read off a call before and after a move is what happens to the breaker. -/
theorem Deals.ledger (h : Deals now c b v b') : Dealt b (Visit.dealings now c v) b' := by
  cases h with
  | keeps hpermits hsettlement =>
    rw [dealings_of_keeps hpermits hsettlement]
    exact .nil
  | granted hnone hpermit hacquire =>
    simp only [Visit.dealings, hnone, Visit.permits, hpermit, Option.toList]
    exact .cons .nil (.granted hacquire)
  | settled how hpermit hsettlement =>
    simp only [Visit.dealings, hpermit, hsettlement]
    exact .cons .nil (.settled _ _ _)

theorem Deals.settings (h : Deals now c b v b') : b'.settings = b.settings := by
  cases h with
  | keeps => rfl
  | granted hnone hpermit hacquire =>
    have hsettings := @CircuitBreaker.acquire_settings b now
    rwa [hacquire] at hsettings
  | settled how hpermit hsettlement => exact CircuitBreaker.apply_settings _

/-- The trials of the breaker stay counted. -/
theorem Deals.watched {rest : List CallPermit} (h : Deals now c b v b')
    (hvalid : b.settings.invalid? = none) (hw : Watched b (c.permit?.toList ++ rest)) :
    Watched b' (v.permits ++ rest) := by
  cases h with
  | keeps hpermits => rwa [hpermits]
  | granted hnone hpermit hacquire =>
    rw [hnone] at hw
    simpa [Visit.permits, hpermit] using hw.granted hvalid hacquire
  | settled how hpermit hsettlement =>
    rw [hpermit] at hw
    rw [permits_of_settlement hsettlement]
    exact hw.settled hvalid _ _

theorem Deals.bill {log : List Dealing} (h : Deals now c b v b')
    (hbill : (Visit.going c).Bill log) : v.Bill (Visit.dealings now c v ++ log) := by
  cases h with
  | keeps hpermits hsettlement =>
    rw [dealings_of_keeps hpermits hsettlement]
    cases hbill with
    | unadmitted hnone =>
      refine .unadmitted (hpermits.trans hnone) ?_
      rcases hsettlement with hsettlement | ⟨-, hsettlement⟩
      · exact .inl hsettlement
      · exact .inr hsettlement
    | holding hpermit =>
      rw [hpermit] at hpermits
      cases v with
      | going c' => exact .holding (by simpa [Visit.permits] using hpermits)
      | ended answer => cases hpermits
      | dropped => cases hpermits
    | settled hsettled => cases hsettled
  | granted hnone hpermit hacquire =>
    simp only [Visit.dealings, hnone, Visit.permits, hpermit, Option.toList]
    cases hbill with
    | unadmitted => exact .holding hpermit
    | holding hsome => cases hnone.symm.trans hsome
    | settled hsettled => cases hsettled
  | settled how hpermit hsettlement =>
    simp only [Visit.dealings, hpermit, hsettlement]
    cases hbill with
    | unadmitted hnone => simp [Visit.permits, hpermit] at hnone
    | holding hsome =>
      obtain rfl := Option.some.inj (hpermit.symm.trans hsome)
      exact .settled hsettlement
    | settled hsettled => cases hsettled

end GateCall

end Courier

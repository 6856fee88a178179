import Courier.Proofs.DeadLetter.Store
import Courier.Proofs.Depot
import Courier.DeadLetter.Replay

/-!
# The moves of a replay

Over a store in memory a replay makes one of seven moves (`Replay.Moved`, `Replay.moved_of_step`).
Its first move claims the entry or turns the replay down; a replay that is turned down changes
nothing, and one that has claimed its entry goes to the gate or has failed already. A call through
the gate leaves the store alone. The last move settles the entry by what the gate answered.

`Replay.notes` is the record of a replay's moves: the claim, the payload handed to the gate, and the
gate's answer.
-/

set_option autoImplicit false
set_option relaxedAutoImplicit false

namespace Courier

/-- What is noted of a replay. -/
inductive ReplayNote where
  /-- The entry was claimed. -/
  | claimed (id : EntryId)
  /-- The payload of the entry goes through the gate. -/
  | executed (id : EntryId)
  | answered (id : EntryId) (answer : GateCall.End)

/-- A task with more to do. -/
def Turn.going? {T R : Type} : Turn T R → Option T
  | .going t => some t
  | .done _ => none

/-- A move leaves the dead letters alone. -/
structure Depot.KeepsLetters (d d' : Depot) : Prop where
  letters : d'.letters = d.letters
  allowAbandoned : d'.allowAbandoned = d.allowAbandoned

theorem Depot.KeepsLetters.trans {d₁ d₂ d₃ : Depot} (h : d₁.KeepsLetters d₂)
    (h' : d₂.KeepsLetters d₃) : d₁.KeepsLetters d₃ :=
  ⟨h'.letters.trans h.letters, h'.allowAbandoned.trans h.allowAbandoned⟩

theorem Depot.keepsLetters_report (d : Depot) (e : Event) : d.KeepsLetters (d.report e) := by
  obtain ⟨events, heq⟩ := d.report_eq e
  rw [heq]
  exact ⟨rfl, rfl⟩

theorem Depot.keepsLetters_call {d d' : Depot} {resource platform : String} {c : GateCall}
    {turn : Turn GateCall GateCall.End} (h : d.call resource platform c = some (turn, d')) :
    d.KeepsLetters d' := by
  obtain ⟨gate, sender, scene, -, -, -, events, rfl⟩ := Depot.call_eq h
  exact ⟨rfl, rfl⟩

namespace Replay

/-- What is noted of the next move of a replay, the latest first. -/
def notes (t : Replay) (d : Depot) : List ReplayNote :=
  match t.phase, t.step d with
  | .begun, some (.going { phase := .calling .., .. }, _) => [.executed t.id, .claimed t.id]
  | .begun, some (.going _, _) => [.claimed t.id]
  | .calling e c, _ =>
    match d.call e.target.resource e.target.platform c with
    | some (.done answer, _) => [.answered t.id answer]
    | _ => []
  | _, _ => []

/-- The moves of a replay: what it turns into, the depot afterwards and what is noted. -/
inductive Moved (t : Replay) (d : Depot) :
    Turn Replay (Except StoreError ReplayOutcome) → Depot → List ReplayNote → Prop where
  /-- There is no such entry. -/
  | missing (hphase : t.phase = .begun) (hget : d.letters.get? t.id = none) :
      Moved t d (.done (.error (.notFound t.id))) d.tick []
  /-- The entry is not to be claimed. -/
  | refused {e : DeadLetter} (hphase : t.phase = .begun) (hget : d.letters.get? t.id = some e)
      (hstatus : e.status ∉ claimable d) :
      Moved t d (.done (.error (.invalidTransition t.id e.status .processing))) d.tick []
  /-- The entry is claimed and its payload goes to the gate. -/
  | called {e entry : DeadLetter} {c : GateCall} {site : Depot} (hphase : t.phase = .begun)
      (hget : d.letters.get? t.id = some e) (hstatus : e.status ∈ claimable d)
      (hletters : site.letters = d.letters.withMoved e .processing d.moment.stamp)
      (hallow : site.allowAbandoned = d.allowAbandoned) :
      Moved t d (.going { t with phase := .calling entry c }) site
        [.executed t.id, .claimed t.id]
  /-- The entry is claimed and fails before it comes to the gate. -/
  | failed {e : DeadLetter} {failure : DeliveryFailure} {attempt wake : ℕ} {site : Depot}
      (hphase : t.phase = .begun) (hget : d.letters.get? t.id = some e)
      (hstatus : e.status ∈ claimable d)
      (hletters : site.letters = d.letters.withMoved e .processing d.moment.stamp)
      (hallow : site.allowAbandoned = d.allowAbandoned) :
      Moved t d (.going { t with phase := .settling (.abandoned failure) attempt wake }) site
        [.claimed t.id]
  /-- The call moves. -/
  | calling {e : DeadLetter} {c c' : GateCall} {site : Depot} (hphase : t.phase = .calling e c)
      (hkeeps : d.KeepsLetters site) :
      Moved t d (.going { t with phase := .calling e c' }) site []
  /-- The gate answers. -/
  | answered {e : DeadLetter} {c : GateCall} {answer : GateCall.End} {outcome : ReplayOutcome}
      {attempt wake : ℕ} {site : Depot} (hphase : t.phase = .calling e c)
      (houtcome : ∀ n, outcome = .resolved n ↔ ∃ r, answer = .ok (.delivered n r))
      (hkeeps : d.KeepsLetters site) :
      Moved t d (.going { t with phase := .settling outcome attempt wake }) site
        [.answered t.id answer]
  /-- The entry is settled. -/
  | settled {e : DeadLetter} {outcome : ReplayOutcome} {attempt wake : ℕ} {site : Depot}
      (hphase : t.phase = .settling outcome attempt wake) (hget : d.letters.get? t.id = some e)
      (hstatus : e.status = .processing)
      (hletters : site.letters = d.letters.withMoved e (finalStatus outcome) d.moment.stamp)
      (hallow : site.allowAbandoned = d.allowAbandoned) :
      Moved t d (.done (.ok outcome)) site []

variable {t : Replay} {d : Depot}

/-! ### Each phase -/

/-- The result decides in which state the entry is to be settled. -/
theorem conclude_eq (t : Replay) (d : Depot) (e : DeadLetter) (result : Except DeliveryFailure ℕ) :
    ∃ outcome site, t.conclude d e result =
        (.going { t with phase := .settling outcome 1 d.clock.now }, site) ∧
      d.KeepsLetters site ∧ ∀ n, outcome = .resolved n ↔ result = .ok n := by
  cases result with
  | ok attempts => exact ⟨.resolved attempts, d, rfl, ⟨rfl, rfl⟩, by simp⟩
  | error failure => exact ⟨.abandoned failure, _, rfl, d.keepsLetters_report _, by simp⟩

/-- The gate delivered the payload if and only if there is a number of attempts. -/
theorem callResult_eq_ok_iff (answer : GateCall.End) (n : ℕ) :
    callResult answer = .ok n ↔ ∃ r, answer = .ok (.delivered n r) := by
  cases answer with
  | error reason => simp [callResult]
  | ok outcome =>
    cases outcome <;> simp [callResult, GateOutcome.failure?, GateOutcome.attempts]

/-- A replay that has claimed its entry goes to the gate or has failed. -/
theorem claimed_cases (t : Replay) (d : Depot) (e : DeadLetter) :
    (∃ c site, t.claimed d e = (.going { t with phase := .calling e c }, site) ∧
      d.KeepsLetters site) ∨
    ∃ failure attempt wake site,
      t.claimed d e =
        (.going { t with phase := .settling (.abandoned failure) attempt wake }, site) ∧
      d.KeepsLetters site := by
  have hfailed : ∀ failure : DeliveryFailure, ∃ attempt wake site,
      t.conclude d e (.error failure) =
        (.going { t with phase := .settling (.abandoned failure) attempt wake }, site) ∧
      d.KeepsLetters site := fun failure ↦ ⟨_, _, _, rfl, d.keepsLetters_report _⟩
  unfold claimed
  split
  · exact .inr ⟨_, hfailed _⟩
  · exact .inr ⟨_, hfailed _⟩
  · split
    · exact .inr ⟨_, hfailed _⟩
    · split
      · exact .inr ⟨_, hfailed _⟩
      · exact .inl ⟨_, _, rfl, ⟨rfl, rfl⟩⟩

theorem moved_of_claim (hmemory : d.letters.faults = {}) (hphase : t.phase = .begun) :
    t.Moved d (t.claim d).1 (t.claim d).2 (t.notes d) := by
  have hstep : t.step d = some (t.claim d) := by rw [step, hphase]
  obtain ⟨hget, heq⟩ | ⟨e, hget, hstatus, heq⟩ | ⟨e, hget, hstatus, heq⟩ :=
    DeadLetterStore.transition_cases hmemory t.id (claimable d) .processing d.moment.stamp
  · have hclaim : t.claim d = (.done (.error (.notFound t.id)), d.tick) := by rw [claim, heq]; rfl
    simpa only [notes, hphase, hstep, hclaim] using Moved.missing hphase hget
  · have hclaim : t.claim d =
        (.done (.error (.invalidTransition t.id e.status .processing)), d.tick) := by
      rw [claim, heq]
      rfl
    simpa only [notes, hphase, hstep, hclaim] using Moved.refused hphase hget hstatus
  · have hclaim : t.claim d = t.claimed
        { d.tick with letters := d.letters.withMoved e .processing d.moment.stamp }
        (e.moved .processing d.moment.stamp) := by rw [claim, heq]
    obtain ⟨c, site, hclaimed, hkeeps⟩ | ⟨failure, attempt, wake, site, hclaimed, hkeeps⟩ :=
      t.claimed_cases
        { d.tick with letters := d.letters.withMoved e .processing d.moment.stamp }
        (e.moved .processing d.moment.stamp)
    · simpa only [notes, hphase, hstep, hclaim, hclaimed] using
        Moved.called hphase hget hstatus hkeeps.letters hkeeps.allowAbandoned
    · simpa only [notes, hphase, hstep, hclaim, hclaimed] using
        Moved.failed hphase hget hstatus hkeeps.letters hkeeps.allowAbandoned

theorem moved_of_call {e : DeadLetter} {c : GateCall}
    {turn : Turn Replay (Except StoreError ReplayOutcome)} {site : Depot}
    (hphase : t.phase = .calling e c) (hstep : t.step d = some (turn, site)) :
    t.Moved d turn site (t.notes d) := by
  rw [step, hphase] at hstep
  simp only at hstep
  split at hstep
  · exact absurd hstep (by simp)
  · rename_i c' after hcall
    obtain ⟨rfl, rfl⟩ := Prod.mk.inj (Option.some.inj hstep)
    simpa only [notes, hphase, hcall] using
      Moved.calling hphase (Depot.keepsLetters_call hcall)
  · rename_i answer after hcall
    obtain ⟨outcome, settled, hconclude, hkeeps, houtcome⟩ :=
      t.conclude_eq after e (callResult answer)
    obtain ⟨rfl, rfl⟩ := Prod.mk.inj ((Option.some.inj hstep).symm.trans hconclude)
    simpa only [notes, hphase, hcall] using
      Moved.answered hphase (fun n ↦ (houtcome n).trans (callResult_eq_ok_iff answer n))
        ((Depot.keepsLetters_call hcall).trans hkeeps)

theorem moved_of_settle {outcome : ReplayOutcome} {attempt wake : ℕ}
    {turn : Turn Replay (Except StoreError ReplayOutcome)} {site : Depot}
    (hmemory : d.letters.faults = {}) (hphase : t.phase = .settling outcome attempt wake)
    (hclaimed : d.letters.status? t.id = some .processing)
    (hstep : t.step d = some (turn, site)) : t.Moved d turn site (t.notes d) := by
  rw [step, hphase] at hstep
  obtain ⟨hget, -⟩ | ⟨e, hget, hstatus, -⟩ | ⟨e, hget, -, heq⟩ :=
    DeadLetterStore.transition_cases hmemory t.id [.processing] (finalStatus outcome)
      d.moment.stamp
  · exact absurd hclaimed (by simp [DeadLetterStore.status?, hget])
  · rw [DeadLetterStore.status?_of_get? hget, Option.some.injEq] at hclaimed
    exact absurd (List.mem_singleton.mpr hclaimed) hstatus
  · rw [DeadLetterStore.status?_of_get? hget, Option.some.injEq] at hclaimed
    simp only [settle, heq, Option.ite_none_right_eq_some, Option.some.injEq] at hstep
    obtain ⟨rfl, rfl⟩ := Prod.mk.inj hstep.2
    have hmoved : t.Moved d (.done (.ok outcome))
        { d.tick with letters := d.letters.withMoved e (finalStatus outcome) d.moment.stamp } [] :=
      .settled hphase hget hclaimed rfl rfl
    simpa only [notes, hphase] using hmoved

/-- The moves of a replay over a store in memory, if its entry is in processing once it has claimed
it. -/
theorem moved_of_step {turn : Turn Replay (Except StoreError ReplayOutcome)} {site : Depot}
    (hmemory : d.letters.faults = {})
    (hclaimed : t.phase ≠ .begun → d.letters.status? t.id = some .processing)
    (hstep : t.step d = some (turn, site)) : t.Moved d turn site (t.notes d) := by
  cases hphase : t.phase with
  | begun =>
    have hclaim : t.claim d = (turn, site) := by
      rw [step, hphase] at hstep
      exact Option.some.inj hstep
    simpa only [hclaim] using moved_of_claim hmemory hphase
  | calling e c => exact moved_of_call hphase hstep
  | settling outcome attempt wake =>
    exact moved_of_settle hmemory hphase (hclaimed (by simp [hphase])) hstep

end Replay

end Courier

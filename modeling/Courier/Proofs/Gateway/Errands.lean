import Courier.Proofs.DeadLetter.Conduct
import Courier.Proofs.DeadLetter.Lifecycle
import Courier.Proofs.Gate.Isolation
import Courier.Proofs.Gateway.Clients

/-!
# What tasks do at the gates

Every move of a task leaves the gates as its errands leave them (`Gateway.Task.gates_of_stepBy`). A
delivery or a replay asks for the gate of its target once, and all that it does after that are moves
of its call; the pool, batches and shutdowns have no business of their own with the gates.

Calls that are made by hand name a resource and not an endpoint; they are left out here.
-/

set_option autoImplicit false
set_option relaxedAutoImplicit false

namespace Courier

/-! ### Calls -/

namespace Depot

/-- The errand of the next move of a call, with the sender of the platform as it is now. -/
def callErrands (d : Depot) (e : Endpoint) (c : GateCall) : List Errand :=
  ((d.senders.get? e.platform).map fun sender ↦ ⟨e, .call c d.moment sender⟩).toList

/-- The errand of giving up a call. -/
def cancelErrands (d : Depot) (e : Endpoint) (c : GateCall) : List Errand :=
  ((d.senders.get? e.platform).map fun sender ↦ ⟨e, .cancel c sender⟩).toList

variable {d d' : Depot} {e : Endpoint} {c : GateCall}

theorem gates_of_call {turn : Turn GateCall GateCall.End}
    (h : d.call e.resource e.platform c = some (turn, d')) :
    d'.gates = d.gates.run (d.callErrands e c) := by
  obtain ⟨gate, sender, scene, hgate, hsender, hstep, rfl⟩ := call_hears h
  simp [callErrands, hsender, GateRegistry.run, GateRegistry.perform, hgate, hstep]

theorem gates_of_cancelCall (d : Depot) (e : Endpoint) (c : GateCall) :
    (d.cancelCall e.resource e.platform c).gates = d.gates.run (d.cancelErrands e c) := by
  rw [cancelCall]
  split
  · rename_i site hscene
    obtain ⟨gate, sender, scene, hgate, hsender, hwork, rfl⟩ := onScene_hears hscene
    obtain rfl := (Prod.mk.inj (Option.some.inj hwork)).2
    simp [cancelErrands, hsender, GateRegistry.run, GateRegistry.perform, hgate]
  · rename_i hscene
    -- there is no gate or no sender, so the errand finds nothing either
    cases hsender : d.senders.get? e.platform with
    | none => simp [cancelErrands, hsender, GateRegistry.run]
    | some sender =>
      cases hgate : d.gates.get? e.resource with
      | none => simp [cancelErrands, hsender, GateRegistry.run, GateRegistry.perform, hgate]
      | some gate => simp [onScene, hgate, hsender] at hscene

end Depot

theorem GateRegistry.run_ask {r r' : GateRegistry} {e : Endpoint} {gate : Gate}
    (h : r.gate e.resource = .ok (gate, r')) : r' = r.run [⟨e, .ask⟩] := by
  simp [run, perform, h]

/-! ### Deliveries -/

namespace Delivery

/-- The errands of the next move of a delivery. -/
def errands (t : Delivery) (d : Depot) : List Errand :=
  match t.call, t.step d with
  | some c, _ => d.callErrands t.target.at c
  | none, some (.going _, _) => [⟨t.target.at, .ask⟩]
  | none, _ => []

variable {t : Delivery} {d d' : Depot} {turn : Turn Delivery DeliveryReport}

theorem gates_of_fail (t : Delivery) (d : Depot) (payload : Option Json)
    (failure : DeliveryFailure) (attempts : ℕ) :
    (t.fail d payload failure attempts).2.gates = d.gates := by
  obtain ⟨answer, letters, -, hfail⟩ := t.fail_hears d payload failure attempts
  rw [hfail]
  rfl

theorem gates_of_step (h : t.step d = some (turn, d')) :
    d'.gates = d.gates.run (t.errands d) := by
  have hadvance := advance_of_step h
  cases hadvance with
  | @barred failure payload hcall =>
    obtain ⟨report, hreport⟩ := t.done_of_fail d payload failure 0
    rw [gates_of_fail, errands, hcall, h, hreport]
    rfl
  | opens hcall hclears =>
    obtain ⟨gate, hgate⟩ := hclears.gate
    rw [errands, hcall, h]
    exact GateRegistry.run_ask hgate
  | calls hcall hmove | delivers hcall hmove =>
    rw [errands, hcall]
    exact Depot.gates_of_call hmove
  | fails hcall hmove =>
    rw [gates_of_fail, errands, hcall]
    exact Depot.gates_of_call hmove

end Delivery

/-- The errands of the next move of a dispatch, or of its delivery at a place. -/
def Dispatch.errands (place : ℕ) (t : Dispatch) (d : Depot) : List Errand :=
  match t with
  | .pending _ => []
  | .delivering deliveries =>
    match deliveries[place]? with
    | some (.going t) => t.errands d
    | _ => []

theorem Dispatch.gates_of_stepOne {place : ℕ} {t : Dispatch} {d d' : Depot}
    {turn : Turn Dispatch (List DeliveryReport)} (h : t.stepOne place d = some (turn, d')) :
    d'.gates = d.gates.run (t.errands place d) := by
  obtain ⟨n, rfl, -, rfl⟩ | ⟨deliveries, delivery, next, rfl, hdelivery, hnext, -⟩ |
    ⟨deliveries, reports, rfl, -, rfl, hdone⟩ := stepOne_cases h
  · rfl
  · rw [errands, hdelivery]
    exact Delivery.gates_of_step hnext
  · rw [errands]
    split
    · rename_i t ht
      obtain ⟨report, heq⟩ := hdone _ (List.mem_of_getElem? ht)
      exact absurd heq (by simp)
    · rfl

/-! ### Replays -/

namespace Replay

/-- The errands of the next move of a replay. -/
def errands (t : Replay) (d : Depot) : List Errand :=
  match t.phase, t.step d with
  | .calling e c, _ => d.callErrands e.target.at c
  | .begun, some (.going ⟨_, .calling e _⟩, _) => [⟨e.target.at, .ask⟩]
  | _, _ => []

variable {t : Replay} {d d' : Depot} {turn : Turn Replay (Except StoreError ReplayOutcome)}

theorem gates_of_conclude (t : Replay) (d : Depot) (e : DeadLetter)
    (result : Except DeliveryFailure ℕ) : (t.conclude d e result).2.gates = d.gates := by
  cases result with
  | ok attempts => rfl
  | error failure =>
    rw [conclude, Depot.report_hears]

theorem gates_of_step (h : t.step d = some (turn, d')) :
    d'.gates = d.gates.run (t.errands d) := by
  have hadvance := advance_of_step h
  generalize t.deeds d = deeds at hadvance
  cases hadvance with
  | refused hphase =>
    rw [errands, hphase, h]
    rfl
  | misses hphase =>
    rw [gates_of_conclude, errands, hphase, h]
    rfl
  | opens gates hphase hclaim hgate =>
    obtain ⟨gate, hgate⟩ := hgate
    rw [errands, hphase, h]
    exact GateRegistry.run_ask hgate
  | calls hphase hmove =>
    rw [errands, hphase]
    exact Depot.gates_of_call hmove
  | delivers hphase hmove | fails hphase hmove =>
    rw [gates_of_conclude, errands, hphase]
    exact Depot.gates_of_call hmove
  | settles letters hphase =>
    rw [errands, hphase]
    rfl

end Replay

/-! ### Tasks -/

namespace Gateway.Task

/-- The task is a call made by hand. -/
def isCall : Task → Bool
  | .call .. => true
  | _ => false

/-- The errands of the next move of a task; the delivery that a dispatch moves is chosen. -/
def errands (choice : ℕ) (task : Task) (g : Gateway) : List Errand :=
  match task.running?, task.replay? with
  | some job, _ => job.errands choice g.depot
  | none, some t => t.errands g.depot
  | none, none => []

end Gateway.Task

/-- A submission touches the site with the job that it runs, if at all; being left with a job is
noted. -/
theorem Submission.site_cases {Site Job Result : Type} {run : JobStep Site Job Result}
    {note : Site → Site} {t : Submission Job} {s s' : Plant Site Job}
    {turn : Turn (Submission Job) (Except PoolError SubmitOutcome)}
    (h : t.step run note s = some (turn, s')) :
    (∃ job, t = .begun job ∧ (s'.site = s.site ∨ s'.site = note s.site)) ∨
      ∃ job turn, t = .running job ∧ run job s.site = some (turn, s'.site) := by
  cases t with
  | begun job =>
    refine .inl ⟨job, rfl, ?_⟩
    obtain ⟨reason, -, rfl⟩ | ⟨result, pool, outcome, -, -, -, rfl⟩ | ⟨pool, -, -, rfl⟩ :=
      begun_cases h
    · exact .inl rfl
    · exact .inl rfl
    · exact .inr rfl
  | running job =>
    refine .inr ⟨job, ?_⟩
    obtain ⟨job', site, hrun, -, rfl⟩ | ⟨result, site, hrun, -, rfl⟩ := running_cases h
    · exact ⟨_, rfl, hrun⟩
    · exact ⟨_, rfl, hrun⟩

/-- A batch that moves a submission does nothing else at the plant. -/
theorem Batch.step_of_submit {run : DispatchStep} {t : Batch} {submission : Submission Dispatch}
    {left : ℕ} {s s' : Plant Depot Dispatch} {turn : Turn Batch (Except BatchError BatchResult)}
    (h : t.submit run submission left s = some (turn, s')) :
    ∃ turn, submission.step run (Depot.report · .callerRuns) s = some (turn, s') := by
  rw [submit] at h
  split at h
  · exact absurd h (by simp)
  all_goals
    rename_i hstep
    obtain ⟨-, rfl⟩ := Prod.mk.inj (Option.some.inj h)
    exact ⟨_, hstep⟩

namespace Gateway.Task

variable {choice : ℕ} {g g' : Gateway} {task : Task}

/-- The gates after the move of a submission. -/
theorem gates_of_submission {t : Submission Dispatch} {s : Plant Depot Dispatch}
    {turn : Turn (Submission Dispatch) (Except PoolError SubmitOutcome)}
    (h : t.step (Dispatch.stepOne choice) (Depot.report · .callerRuns) g.plant = some (turn, s)) :
    s.site.gates = g.depot.gates.run ((Task.submit t).errands choice g) := by
  obtain ⟨job, rfl, heq | heq⟩ | ⟨job, turn, rfl, hrun⟩ := Submission.site_cases h
  · rw [heq]
    rfl
  · rw [heq, Depot.report_hears]
    rfl
  · exact Dispatch.gates_of_stepOne hrun

theorem gates_of_batch {t : Batch} {s : Plant Depot Dispatch}
    {turn : Turn Batch (Except BatchError BatchResult)}
    (h : t.step (Dispatch.stepOne choice) g.batchCancelled g.plant = some (turn, s)) :
    s.site.gates = g.depot.gates.run ((Task.batch t).errands choice g) := by
  obtain ⟨options, remaining, result, phase⟩ := t
  by_cases hwaiting : ∃ submission left, phase = .waiting submission left
  · obtain ⟨submission, left, rfl⟩ := hwaiting
    obtain ⟨turn, hstep⟩ := Batch.step_of_submit h
    rw [gates_of_submission hstep]
    cases submission <;> rfl
  · have hphase : ∀ submission left, phase ≠ .waiting submission left :=
      fun submission left heq ↦ hwaiting ⟨submission, left, heq⟩
    have hnone : (Task.batch ⟨options, remaining, result, phase⟩).errands choice g = [] := by
      cases phase with
      | waiting submission left => exact absurd rfl (hphase submission left)
      | begun | between | pausing | submitting => rfl
    rw [hnone]
    generalize hnext : (turn, s) = next at h
    cases Batch.moved_of_step hphase h with
    | goes | refused | stops =>
      obtain ⟨-, rfl⟩ := Prod.mk.inj hnext
      rfl
    | submits hremaining hsubmit =>
      subst hnext
      obtain ⟨turn, hstep⟩ := Batch.step_of_submit hsubmit
      exact gates_of_submission hstep

theorem gates_of_background {t : PoolTask Dispatch} {s : Plant Depot Dispatch}
    {turn : Turn (PoolTask Dispatch) Unit}
    (h : t.step (Dispatch.stepOne choice) g.depot.moment g.plant = some (turn, s)) :
    s.site.gates = g.depot.gates.run ((Task.background t).errands choice g) := by
  cases t with
  | detached job =>
    simp only [PoolTask.step] at h
    split at h
    · exact absurd h (by simp)
    all_goals
      rename_i hrun
      obtain ⟨-, rfl⟩ := Prod.mk.inj (Option.some.inj h)
      exact Dispatch.gates_of_stepOne hrun
  | worker w =>
    simp only [PoolTask.step] at h
    obtain ⟨id, core, phase⟩ := w
    cases hwork :
        Worker.step (Dispatch.stepOne choice) g.depot.moment ⟨id, core, phase⟩ g.plant with
    | none =>
      rw [hwork] at h
      exact absurd h (by simp)
    | some next =>
      have hmoved := Worker.moved_of_step hwork
      rw [hwork] at h
      obtain ⟨after, plant⟩ := next
      obtain rfl : plant = s := by
        cases after <;> exact (Prod.mk.inj (Option.some.inj h)).2
      cases hmoved with
      | begins hphase | linesUp hphase | pulls hphase | leaves hphase =>
        obtain rfl : phase = _ := hphase
        rfl
      | runs hphase hrun | ends hphase hrun =>
        obtain rfl : phase = _ := hphase
        exact Dispatch.gates_of_stepOne hrun

/-- Every move of a task but of a call made by hand leaves the gates as its errands leave them. -/
theorem gates_of_stepBy {task' : Task} (hcall : task.isCall = false)
    (h : task.stepBy (Dispatch.stepOne choice) g = some (task', g')) :
    g'.depot.gates = g.depot.gates.run (task.errands choice g) := by
  have hreplays : task.Replays →
      g'.depot.gates = g.depot.gates.run (task.errands choice g) := by
    intro htask
    have hidle : task.running? = none := by cases task <;> first | rfl | exact htask.elim
    obtain ⟨-, ⟨t, turn, site, ht, hturn, rfl, -⟩ | ⟨⟨letters, rfl, -⟩, hnone, -⟩⟩ :=
      replay_cases htask h
    · rw [errands, hidle, ht]
      exact Replay.gates_of_step hturn
    · rw [errands, hidle, hnone]
      rfl
  cases task with
  | call => exact absurd hcall (by simp [isCall])
  | replay | replayAll => exact hreplays trivial
  | dispatch t =>
    obtain ⟨⟨turn, site⟩, hturn, heq⟩ := Option.map_eq_some_iff.mp h
    obtain ⟨-, rfl⟩ := Prod.mk.inj heq
    exact Dispatch.gates_of_stepOne hturn
  | submit t =>
    obtain ⟨⟨turn, plant⟩, hturn, heq⟩ := Option.map_eq_some_iff.mp h
    obtain ⟨-, rfl⟩ := Prod.mk.inj heq
    exact gates_of_submission hturn
  | batch t =>
    obtain ⟨⟨turn, plant⟩, hturn, heq⟩ := Option.map_eq_some_iff.mp h
    obtain ⟨-, rfl⟩ := Prod.mk.inj heq
    exact gates_of_batch hturn
  | background t =>
    obtain ⟨⟨turn, plant⟩, hturn, heq⟩ := Option.map_eq_some_iff.mp h
    obtain ⟨-, rfl⟩ := Prod.mk.inj heq
    exact gates_of_background hturn
  | shutdown t =>
    obtain ⟨⟨turn, pool⟩, hturn, heq⟩ := Option.map_eq_some_iff.mp h
    obtain ⟨-, rfl⟩ := Prod.mk.inj heq
    rfl
  | cancelBatchAt instant | shutdownAt instant =>
    simp only [stepBy] at h
    split_ifs at h
    obtain ⟨-, rfl⟩ := Prod.mk.inj (Option.some.inj h)
    rfl
  | ended => exact absurd h (by simp [stepBy])

end Gateway.Task

end Courier

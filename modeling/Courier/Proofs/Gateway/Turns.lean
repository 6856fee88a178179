import Courier.Proofs.Gateway.Clients

/-!
# Turns of the schedule

The schedule gives a task one turn at a time, and a dispatch that has its turn gives each of its
deliveries one in which it goes on until it must wait. Such a turn is any number of moves of a
session, one delivery at a time (`Session.reaches_of_step`), so that what holds of all sessions
holds of the runs of the schedule.
-/

set_option autoImplicit false
set_option relaxedAutoImplicit false

namespace Courier

/-! ### Turns of a dispatch -/

namespace Dispatch

variable {d d' : Depot} {turn turn' : Turn Delivery DeliveryReport}

/-- The deliveries of a dispatch move, one at a time, and the dispatch does not end. -/
def Advances : Dispatch × Depot → Dispatch × Depot → Prop :=
  Relation.ReflTransGen fun x y ↦ ∃ place, stepOne place x.1 x.2 = some (.going y.1, y.2)

theorem stepAt_append {t : Delivery} (before rest : List (Turn Delivery DeliveryReport))
    (h : t.step d = some (turn, d')) :
    stepAt before.length (before ++ .going t :: rest) d = some (before ++ turn :: rest, d') := by
  induction before with
  | nil => exact congrArg (Option.map _) h
  | cons first before ih =>
    rw [List.length_cons, List.cons_append, stepAt, ih]
    rfl

/-- A delivery moves in its place. -/
theorem stepOne_append {t : Delivery} (before rest : List (Turn Delivery DeliveryReport))
    (h : t.step d = some (turn, d')) :
    stepOne before.length (.delivering (before ++ .going t :: rest)) d =
      some (.going (.delivering (before ++ turn :: rest)), d') := by
  have hreports : reports? (before ++ .going t :: rest) = none := by
    refine Option.eq_none_iff_forall_not_mem.mpr fun reports hreports ↦ ?_
    obtain ⟨report, hdone⟩ := done_of_reports hreports (.going t) (by simp)
    exact absurd hdone (by simp)
  rw [stepOne, hreports, stepAt_append before rest h]
  rfl

/-- A delivery goes on until it must wait. -/
theorem advances_of_runOne {rounds : ℕ} {moved moved' : Bool}
    (before rest : List (Turn Delivery DeliveryReport))
    (h : runOne rounds moved turn d = (moved', turn', d')) :
    Advances (.delivering (before ++ turn :: rest), d)
      (.delivering (before ++ turn' :: rest), d') := by
  induction rounds generalizing moved turn d with
  | zero =>
    rw [runOne] at h
    obtain ⟨-, rfl, rfl⟩ : _ ∧ _ ∧ _ := by simpa using h
    exact .refl
  | succ rounds ih =>
    cases turn with
    | done report =>
      rw [runOne] at h
      · obtain ⟨-, rfl, rfl⟩ : _ ∧ _ ∧ _ := by simpa using h
        exact .refl
      · simp
    | going t =>
      rw [runOne] at h
      split at h
      · obtain ⟨-, rfl, rfl⟩ : _ ∧ _ ∧ _ := by simpa using h
        exact .refl
      · rename_i next site hstep
        exact .head ⟨before.length, stepOne_append before rest hstep⟩ (ih h)

/-- Each delivery has its turn. -/
theorem advances_of_runAll {rounds : ℕ} {moved : Bool}
    {deliveries after : List (Turn Delivery DeliveryReport)}
    (before : List (Turn Delivery DeliveryReport))
    (h : runAll rounds deliveries d = (moved, after, d')) :
    Advances (.delivering (before ++ deliveries), d) (.delivering (before ++ after), d') := by
  -- those before have had their turn
  induction deliveries generalizing before d moved after with
  | nil =>
    rw [runAll] at h
    obtain ⟨-, rfl, rfl⟩ : _ ∧ _ ∧ _ := by simpa using h
    exact .refl
  | cons first rest ih =>
    rw [runAll] at h
    obtain ⟨movedFirst, next, site, hfirst⟩ :
        ∃ moved next site, runOne rounds false first d = (moved, next, site) := ⟨_, _, _, rfl⟩
    obtain ⟨movedRest, others, last, hrest⟩ :
        ∃ moved others last, runAll rounds rest site = (moved, others, last) := ⟨_, _, _, rfl⟩
    rw [hfirst] at h
    simp only [hrest] at h
    obtain ⟨-, rfl, rfl⟩ : _ ∧ _ ∧ _ := by simpa using h
    have hafter := ih (before ++ [next]) hrest
    rw [List.append_assoc, List.append_assoc] at hafter
    exact (advances_of_runOne before rest hfirst).trans hafter

/-- A turn of a dispatch is one move, or its deliveries move any number of times. -/
theorem turn_of_step {t : Dispatch} {turn : Turn Dispatch (List DeliveryReport)}
    (h : t.step d = some (turn, d')) :
    stepOne 0 t d = some (turn, d') ∨
      ∃ next, turn = .going next ∧ Advances (t, d) (next, d') := by
  cases t with
  | pending n => exact .inl h
  | delivering deliveries =>
    rw [step] at h
    split at h
    · rename_i reports hreports
      rw [stepOne, hreports]
      exact .inl h
    · split at h
      · rename_i after site hrun
        obtain ⟨rfl, rfl⟩ := Prod.mk.inj (Option.some.inj h)
        exact .inr ⟨_, rfl, advances_of_runAll [] hrun⟩
      · exact absurd h (by simp)

end Dispatch

/-! ### Turns of a task -/

namespace Gateway.Task

variable {t : Task} {g : Gateway} {job job' : Dispatch} {site : Depot}

/-- A task whose dispatch has come farther. -/
def withJob (job : Dispatch) : Task → Task
  | .dispatch _ => .dispatch job
  | .background (.worker w) => .background (.worker (w.take job))
  | .background (.detached _) => .background (.detached job)
  | .submit _ => .submit (.running job)
  | .batch ⟨options, remaining, result, .waiting _ left⟩ =>
    .batch ⟨options, remaining, result, .waiting (.running job) left⟩
  | t => t

/-- Those who run a dispatch. -/
theorem running_cases (h : t.running? = some job) :
    t = .dispatch job ∨ (∃ id core, t = .background (.worker ⟨id, core, .working job⟩)) ∨
      t = .background (.detached job) ∨ t = .submit (.running job) ∨
      ∃ options remaining result left,
        t = .batch ⟨options, remaining, result, .waiting (.running job) left⟩ := by
  unfold running? at h
  split at h
  · exact .inl (congrArg _ (Option.some.inj h))
  · obtain rfl := Option.some.inj h
    exact .inr (.inl ⟨_, _, rfl⟩)
  · obtain rfl := Option.some.inj h
    exact .inr (.inr (.inl rfl))
  · obtain rfl := Option.some.inj h
    exact .inr (.inr (.inr (.inl rfl)))
  · obtain rfl := Option.some.inj h
    exact .inr (.inr (.inr (.inr ⟨_, _, _, _, rfl⟩)))
  · exact absurd h (by simp)

theorem running_withJob (h : t.running? = some job) (job' : Dispatch) :
    (t.withJob job').running? = some job' := by
  obtain rfl | ⟨id, core, rfl⟩ | rfl | rfl | ⟨options, remaining, result, left, rfl⟩ :=
    running_cases h <;> rfl

theorem withJob_self (h : t.running? = some job) : t.withJob job = t := by
  obtain rfl | ⟨id, core, rfl⟩ | rfl | rfl | ⟨options, remaining, result, left, rfl⟩ :=
    running_cases h <;> rfl

theorem withJob_withJob (h : t.running? = some job) (next last : Dispatch) :
    (t.withJob next).withJob last = t.withJob last := by
  obtain rfl | ⟨id, core, rfl⟩ | rfl | rfl | ⟨options, remaining, result, left, rfl⟩ :=
    running_cases h <;> rfl

/-- A task moves on with its dispatch. -/
theorem stepBy_going {run : Batch.DispatchStep} (h : t.running? = some job)
    (hrun : run job g.depot = some (.going job', site)) :
    t.stepBy run g = some (t.withJob job', g.withDepot site) := by
  have hrun' : run job g.plant.site = some (.going job', site) := hrun
  obtain rfl | ⟨id, core, rfl⟩ | rfl | rfl | ⟨options, remaining, result, left, rfl⟩ :=
    running_cases h
  · simp [stepBy, onDepot, hrun, ofTurn, withJob, Gateway.withDepot]
  · simp [stepBy, onPlant, PoolTask.step, Worker.step, hrun', ofTurn, withJob, Gateway.withDepot]
  · simp [stepBy, onPlant, PoolTask.step, hrun', ofTurn, withJob, Gateway.withDepot]
  · simp [stepBy, onPlant, Submission.step, hrun', ofTurn, withJob, Gateway.withDepot]
  · simp [stepBy, onPlant, Batch.step, Batch.submit, Submission.step, hrun', ofTurn, withJob,
      Gateway.withDepot]

/-- A task waits with its dispatch. -/
theorem stepBy_waiting {run : Batch.DispatchStep} (h : t.running? = some job)
    (hrun : run job g.depot = none) : t.stepBy run g = none := by
  have hrun' : run job g.plant.site = none := hrun
  obtain rfl | ⟨id, core, rfl⟩ | rfl | rfl | ⟨options, remaining, result, left, rfl⟩ :=
    running_cases h
  · simp [stepBy, onDepot, hrun]
  · simp [stepBy, onPlant, PoolTask.step, Worker.step, hrun']
  · simp [stepBy, onPlant, PoolTask.step, hrun']
  · simp [stepBy, onPlant, Submission.step, hrun']
  · simp [stepBy, onPlant, Batch.step, Batch.submit, Submission.step, hrun']

/-- How dispatches move matters for the dispatch that the task runs. -/
theorem stepBy_congr {run run' : Batch.DispatchStep}
    (h : ∀ job, t.running? = some job → run job g.depot = run' job g.depot) :
    t.stepBy run g = t.stepBy run' g := by
  have h' : ∀ job, t.running? = some job → run job g.plant.site = run' job g.plant.site := h
  cases t with
  | dispatch job => rw [stepBy, stepBy, h job rfl]
  | background t =>
    cases t with
    | detached job => simp [stepBy, PoolTask.step, h' job rfl]
    | worker w =>
      obtain ⟨id, core, phase⟩ := w
      cases phase with
      | starting first => cases first <;> rfl
      | working job => simp [stepBy, PoolTask.step, Worker.step, h' job rfl]
      | idle deadline => rfl
  | submit t =>
    cases t with
    | begun job => rfl
    | running job => simp [stepBy, Submission.step, h' job rfl]
  | batch t =>
    obtain ⟨options, remaining, result, phase⟩ := t
    cases phase with
    | begun | between | pausing | submitting => rfl
    | waiting submission left =>
      cases submission with
      | begun job => rfl
      | running job => simp [stepBy, Batch.step, Batch.submit, Submission.step, h' job rfl]
  | call | replay | replayAll | shutdown | cancelBatchAt | shutdownAt | ended => rfl

end Gateway.Task

/-! ### Turns in a session -/

namespace Session

variable {Note : Type} {w : Watch Note} {s : Session Note} {place : ℕ} {a : Actor}

/-- The deliveries of an actor's dispatch move. -/
theorem reaches_of_advances {x y : Dispatch × Depot} (h : Dispatch.Advances x y)
    (hactor : s.actors[place]? = some a) (hrunning : a.task.running? = some x.1)
    (hdepot : s.gateway.depot = x.2) :
    ∃ notes, Reaches w s
      ⟨s.gateway.withDepot y.2, s.actors.set place ⟨a.origin, a.task.withJob y.1⟩, notes⟩ := by
  obtain ⟨hlt, ha⟩ := List.getElem?_eq_some_iff.mp hactor
  induction h with
  | refl =>
    have hsame : s.actors.set place ⟨a.origin, a.task.withJob x.1⟩ = s.actors := by
      rw [Gateway.Task.withJob_self hrunning, ← ha]
      exact List.set_getElem_self hlt
    refine ⟨s.notes, ?_⟩
    rw [hsame, ← hdepot]
    exact .refl
  | @tail y z _ hlast ih =>
    obtain ⟨notes, hreaches⟩ := ih
    obtain ⟨choice, hmove⟩ := hlast
    have hstep := Gateway.Task.stepBy_going (g := s.gateway.withDepot y.2)
      (Gateway.Task.running_withJob hrunning y.1) hmove
    rw [Gateway.Task.withJob_withJob hrunning] at hstep
    have hturn := Move.turn (w := w)
      (s := ⟨s.gateway.withDepot y.2, s.actors.set place ⟨a.origin, a.task.withJob y.1⟩, notes⟩)
      (List.getElem?_set_self hlt) hstep
    rw [turned, List.set_set] at hturn
    exact ⟨_, hreaches.tail hturn⟩

/-- A turn of a task in the schedule is any number of its moves. -/
theorem reaches_of_step {task : Gateway.Task} {g : Gateway}
    (hactor : s.actors[place]? = some a) (h : a.task.step s.gateway = some (task, g)) :
    ∃ notes, Reaches w s ⟨g, s.actors.set place ⟨a.origin, task⟩, notes⟩ := by
  have hone : a.task.step s.gateway = a.task.stepBy (Dispatch.stepOne 0) s.gateway →
      ∃ notes, Reaches w s ⟨g, s.actors.set place ⟨a.origin, task⟩, notes⟩ :=
    fun hsame ↦ ⟨_, .single (.turn hactor (hsame.symm.trans h))⟩
  cases hrunning : a.task.running? with
  | none => exact hone (Gateway.Task.stepBy_congr (by simp [hrunning]))
  | some job =>
    cases hrun : job.step s.gateway.depot with
    | none => exact absurd (h.symm.trans (Gateway.Task.stepBy_waiting hrunning hrun)) (by simp)
    | some next =>
      obtain ⟨turn, site⟩ := next
      obtain hmove | ⟨job', rfl, hadvances⟩ := Dispatch.turn_of_step hrun
      · refine hone (Gateway.Task.stepBy_congr fun job' hjob' ↦ ?_)
        obtain rfl := Option.some.inj (hrunning.symm.trans hjob')
        rw [hrun, hmove]
      · have hgoing := h.symm.trans (Gateway.Task.stepBy_going hrunning hrun)
        obtain ⟨rfl, rfl⟩ := Prod.mk.inj (Option.some.inj hgoing)
        exact reaches_of_advances hadvances hactor hrunning rfl

end Session

end Courier

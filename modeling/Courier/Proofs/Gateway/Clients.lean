import Courier.Proofs.Delivery.Ledger
import Courier.Proofs.Gateway.Session
import Courier.Proofs.Pool.Staffing

/-!
# Those who publish, shut down and work

At a gateway to which notifications are published, singly or in batches, and which is shut down,
there are the callers and the tasks of the pool. `Actor.accepted` are the notifications that a
caller was told are accepted, `Actor.lent` the one that it is dispatching itself.

`Actor.Fits` says how far an actor may have come, and `Actor.Turned` what a move of such an actor
does to jobs, roles, pool and depot. There are seven kinds of move (`Actor.turned_of_step`): an
actor moves on by itself, a job is accepted or left to the caller, a job is run or ends, a worker
takes a job from the queue, and a worker goes.
-/

set_option autoImplicit false
set_option relaxedAutoImplicit false

namespace Courier

namespace Gateway.Task

/-- What a task is to the pool. -/
def role : Task → Role
  | .background t => t.role
  | .submit (.running _) => .lending
  | .batch ⟨_, _, _, .waiting _ _⟩ => .lending
  | _ => .outsider

/-- The jobs that a task has taken. -/
def jobs : Task → List Dispatch
  | .dispatch job => [job]
  | .background t => t.jobs
  | .submit (.running job) => [job]
  | .batch ⟨_, _, _, .waiting (.running job) _⟩ => [job]
  | _ => []

/-- The dispatch that moves when the task does. -/
def running? : Task → Option Dispatch
  | .dispatch job => some job
  | .background (.worker ⟨_, _, .working job⟩) => some job
  | .background (.detached job) => some job
  | .submit (.running job) => some job
  | .batch ⟨_, _, _, .waiting (.running job) _⟩ => some job
  | _ => none

end Gateway.Task

/-- Notifications are published singly and in batches and the pool is shut down; what is noted is
what deliveries do. -/
def deliveries : Watch DeliveryNote where
  comes task := (∃ n, task = .submit (.begun (.pending n))) ∨
    (∃ options notifications, task = .batch (.new options notifications)) ∨
    task = .shutdown .begun
  note choice task g := (task.running?.map fun t ↦ t.notes choice g.depot).getD []

namespace Actor

/-- The notifications of a caller that were accepted: that of a submission that ended well, and the
first ones of a batch, as many as it has published. -/
def accepted (a : Actor) : List Notification :=
  match a.origin, a.task with
  | .submit (.begun (.pending n)), .ended (.submitted (.ok _)) => [n]
  | .batch b, .batch t => b.remaining.take t.result.published
  | .batch b, .ended (.batch (.ok result)) => b.remaining.take result.published
  | .batch b, .ended (.batch (.error (.interrupted result _))) =>
    b.remaining.take result.published
  | _, _ => []

/-- The notification that a caller is dispatching itself. -/
def lent (a : Actor) : List Notification :=
  match a.origin, a.task with
  | .submit (.begun (.pending n)), .submit (.running _) => [n]
  | .batch b, .batch ⟨_, _, result, .waiting _ _⟩ => (b.remaining.drop result.published).take 1
  | _, _ => []

/-- How far an actor may have come: one who publishes, a batch, one who shuts the pool down, or a
task of the pool. -/
inductive Fits : Actor → Prop where
  | publishing (n : Notification) :
      Fits ⟨.submit (.begun (.pending n)), .submit (.begun (.pending n))⟩
  | running (n : Notification) (job : Dispatch) :
      Fits ⟨.submit (.begun (.pending n)), .submit (.running job)⟩
  | published (n : Notification) (outcome : Except PoolError SubmitOutcome) :
      Fits ⟨.submit (.begun (.pending n)), .ended (.submitted outcome)⟩
  | batch {b t : Batch} (hphase : ∀ submission left, t.phase ≠ .waiting submission left)
      (hbegun : t.phase = .begun → t.result.published = 0)
      (hdrop : b.remaining.drop t.result.published = t.remaining) : Fits ⟨.batch b, .batch t⟩
  | waiting {b : Batch} {options : BatchSettings} {remaining : List Notification}
      {result : BatchResult} {n : Notification} (job : Dispatch) (left : ℕ)
      (hdrop : b.remaining.drop result.published = n :: remaining) :
      Fits ⟨.batch b, .batch ⟨options, remaining, result, .waiting (.running job) left⟩⟩
  | batched (b : Batch) (outcome : Except BatchError BatchResult) :
      Fits ⟨.batch b, .ended (.batch outcome)⟩
  | shutdown (origin t : Shutdown) : Fits ⟨.shutdown origin, .shutdown t⟩
  | drained (origin : Shutdown) (complete : Bool) :
      Fits ⟨.shutdown origin, .ended (.drained complete)⟩
  | background {origin t : PoolTask Dispatch} (hpatient : t.Patient) :
      Fits ⟨.background origin, .background t⟩
  | gone (origin : PoolTask Dispatch) : Fits ⟨.background origin, .ended .nothing⟩

end Actor

/-- The gateway with another pool. -/
def Gateway.withPool (g : Gateway) (pool : Pool Dispatch) : Gateway :=
  { g with plant := { g.plant with pool } }

/-- What the move of an actor does. `a` is the actor before and `b` after the move. -/
inductive Actor.Turned (choice : ℕ) (g : Gateway) (a b : Actor) :
    Gateway → List DeliveryNote → Prop where
  /-- The actor moves on by itself. -/
  | idles {pool : Pool Dispatch} (hjobs : b.task.jobs = a.task.jobs)
      (hrole : b.task.role = a.task.role) (htaken : b.accepted ++ b.lent = a.accepted ++ a.lent)
      (hpool : g.pool.Alike pool) : Turned choice g a b (g.withPool pool) []
  /-- The pool takes a notification. -/
  | submits {n : Notification} {result : Submitted Dispatch} {pool : Pool Dispatch}
      (hsubmit : g.pool.submit (.pending n) = (result, pool))
      (hresult : result = .queued ∨ result = .spawned) (hjobs : a.task.jobs = [])
      (hjobs' : b.task.jobs = []) (hrole : a.task.role = .outsider)
      (hrole' : b.task.role = .outsider)
      (htaken : b.accepted ++ b.lent = a.accepted ++ a.lent ++ [n]) :
      Turned choice g a b (g.withPool pool) []
  /-- The pool leaves a notification to its caller. -/
  | borrows {n : Notification} {pool : Pool Dispatch} {site : Depot}
      (hsubmit : g.pool.submit (.pending n) = (.lent (.pending n), pool))
      (hjobs : a.task.jobs = []) (hjobs' : b.task.jobs = [.pending n])
      (hrole : a.task.role = .outsider) (hrole' : b.task.role = .lending)
      (htaken : b.accepted ++ b.lent = a.accepted ++ a.lent ++ [n])
      (hsite : ∃ events, site = { g.depot with events }) :
      Turned choice g a b ((g.withDepot site).withPool pool) []
  /-- A job is run. -/
  | runs {job job' : Dispatch} {site : Depot} (hjobs : a.task.jobs = [job])
      (hjobs' : b.task.jobs = [job']) (hrole : b.task.role = a.task.role)
      (htaken : b.accepted ++ b.lent = a.accepted ++ a.lent)
      (hstep : job.stepOne choice g.depot = some (.going job', site)) :
      Turned choice g a b (g.withDepot site) (job.notes choice g.depot)
  /-- A job ends. -/
  | ends {job : Dispatch} {reports : List DeliveryReport} {site : Depot} {pool : Pool Dispatch}
      (hjobs : a.task.jobs = [job]) (hjobs' : b.task.jobs = [])
      (htaken : b.accepted ++ b.lent = a.accepted ++ a.lent)
      (hstep : job.stepOne choice g.depot = some (.done reports, site))
      (hpool : b.task.role = a.task.role ∧ g.pool.Alike pool ∨
        a.task.role = .detached ∧ b.task.role = .outsider ∧
          pool = { g.pool with detached := g.pool.detached - 1 } ∨
        a.task.role = .lending ∧ b.task.role = .outsider ∧ pool = g.pool.giveBack) :
      Turned choice g a b ((g.withDepot site).withPool pool) (job.notes choice g.depot)
  /-- A worker takes a job from the queue. -/
  | pulls {job : Dispatch} {queue : List Dispatch} {line : List ℕ} (hjobs : a.task.jobs = [])
      (hjobs' : b.task.jobs = [job]) (hrole : b.task.role = a.task.role)
      (htaken : b.accepted ++ b.lent = a.accepted ++ a.lent)
      (hqueue : g.pool.queue = job :: queue) :
      Turned choice g a b (g.withPool { g.pool with queue, line }) []
  /-- A worker goes. -/
  | leaves {core : Bool} {id : ℕ} (hjobs : a.task.jobs = []) (hjobs' : b.task.jobs = [])
      (hrole : a.task.role = .worker core) (hrole' : b.task.role = .outsider)
      (htaken : b.accepted ++ b.lent = a.accepted ++ a.lent)
      (hcore : core = true → g.pool.queue = [] ∧ g.pool.isDry = true) :
      Turned choice g a b (g.withPool (g.pool.dismiss id)) []

namespace Actor

variable {choice : ℕ} {g g' : Gateway} {task : Gateway.Task}

theorem jobs_of_running {job : Dispatch} (h : task.running? = some job) : task.jobs = [job] := by
  unfold Gateway.Task.running? at h
  split at h
  · exact congrArg (fun job ↦ [job]) (Option.some.inj h)
  · exact congrArg (fun job ↦ [job]) (Option.some.inj h)
  · exact congrArg (fun job ↦ [job]) (Option.some.inj h)
  · exact congrArg (fun job ↦ [job]) (Option.some.inj h)
  · exact congrArg (fun job ↦ [job]) (Option.some.inj h)
  · exact absurd h (by simp)

/-- Nothing is noted of a task that runs no job. -/
theorem note_of_idle (hjobs : task.jobs = []) : deliveries.note choice task g = [] := by
  have hnone : task.running? = none := by
    cases hrunning : task.running? with
    | none => rfl
    | some job => exact absurd (hjobs.symm.trans (jobs_of_running hrunning)) (by simp)
  simp [deliveries, hnone]

/-- The notifications submitted with the next one. -/
theorem take_succ_of_drop {notifications remaining : List Notification} {n : Notification}
    {published : ℕ} (h : notifications.drop published = n :: remaining) :
    notifications.take (published + 1) = notifications.take published ++ [n] ∧
      notifications.drop (published + 1) = remaining ∧
      (notifications.drop published).take 1 = [n] := by
  have hget : notifications[published]? = some n := by
    rw [← List.head?_drop, h, List.head?_cons]
  refine ⟨?_, ?_, ?_⟩
  · rw [List.take_add_one, hget, Option.toList_some]
  · rw [← List.tail_drop, h, List.tail_cons]
  · rw [h, List.take_succ_cons, List.take_zero]

/-- One who publishes a notification. -/
theorem turned_of_publishing {n : Notification}
    (hstep : (Gateway.Task.submit (.begun (.pending n))).stepBy (Dispatch.stepOne choice) g =
      some (task, g')) :
    Fits ⟨.submit (.begun (.pending n)), task⟩ ∧
      Turned choice g ⟨.submit (.begun (.pending n)), .submit (.begun (.pending n))⟩
        ⟨.submit (.begun (.pending n)), task⟩ g' [] := by
  obtain ⟨⟨turn, plant⟩, hturn, heq⟩ := Option.map_eq_some_iff.mp hstep
  obtain ⟨rfl, rfl⟩ := Prod.mk.inj heq
  obtain ⟨reason, rfl, rfl⟩ | ⟨result, pool, outcome, hsubmit, hresult, rfl, rfl⟩ |
    ⟨pool, hsubmit, rfl, rfl⟩ := Submission.begun_cases hturn
  · exact ⟨.published n _, .idles rfl rfl rfl (Pool.alike_refl _)⟩
  · exact ⟨.published n _, .submits hsubmit hresult rfl rfl rfl rfl rfl⟩
  · exact ⟨.running n _, .borrows hsubmit rfl rfl rfl rfl rfl (Depot.report_eq _ _)⟩

/-- One who runs the dispatch of a notification. -/
theorem turned_of_running {n : Notification} {job : Dispatch}
    (hstep : (Gateway.Task.submit (.running job)).stepBy (Dispatch.stepOne choice) g =
      some (task, g')) :
    Fits ⟨.submit (.begun (.pending n)), task⟩ ∧
      Turned choice g ⟨.submit (.begun (.pending n)), .submit (.running job)⟩
        ⟨.submit (.begun (.pending n)), task⟩ g' (job.notes choice g.depot) := by
  obtain ⟨⟨turn, plant⟩, hturn, heq⟩ := Option.map_eq_some_iff.mp hstep
  obtain ⟨rfl, rfl⟩ := Prod.mk.inj heq
  obtain ⟨job', site, hrun, rfl, rfl⟩ | ⟨reports, site, hrun, rfl, rfl⟩ :=
    Submission.running_cases hturn
  · exact ⟨.running n _, .runs rfl rfl rfl rfl hrun⟩
  · exact ⟨.published n _, .ends rfl rfl (by rfl) hrun (.inr (.inr ⟨rfl, rfl, rfl⟩))⟩

/-- A worker. -/
theorem turned_of_worker {origin : PoolTask Dispatch} {w : Worker Dispatch}
    (hpatient : (PoolTask.worker w).Patient)
    (hstep : (Gateway.Task.background (.worker w)).stepBy (Dispatch.stepOne choice) g =
      some (task, g')) :
    Fits ⟨.background origin, task⟩ ∧
      Turned choice g ⟨.background origin, .background (.worker w)⟩ ⟨.background origin, task⟩ g'
        (deliveries.note choice (.background (.worker w)) g) := by
  obtain ⟨⟨turn, plant⟩, hturn, heq⟩ := Option.map_eq_some_iff.mp hstep
  obtain ⟨rfl, rfl⟩ := Prod.mk.inj heq
  rw [PoolTask.step] at hturn
  obtain ⟨id, core, phase⟩ := w
  cases hwork : Worker.step (Dispatch.stepOne choice) g.depot.moment ⟨id, core, phase⟩ g.plant with
  | none =>
    rw [hwork] at hturn
    exact absurd hturn (by simp)
  | some next =>
    have hmoved := Worker.moved_of_step hwork
    rw [hwork] at hturn
    obtain ⟨after, plant'⟩ := next
    cases hmoved with
    | begins hphase =>
      obtain rfl : phase = _ := hphase
      obtain ⟨rfl, rfl⟩ := Prod.mk.inj (Option.some.inj hturn)
      exact ⟨.background (Worker.patient_of_busy (by simp [Worker.take])),
        .idles rfl rfl (by rfl) (Pool.alike_refl _)⟩
    | linesUp hphase =>
      obtain rfl : phase = _ := hphase
      obtain ⟨rfl, rfl⟩ := Prod.mk.inj (Option.some.inj hturn)
      exact ⟨.background (Worker.patient_of_lineUp g.depot.moment ⟨id, core, _⟩ g.pool),
        .idles rfl rfl (by rfl) (Worker.alike_of_lineUp g.depot.moment ⟨id, core, _⟩ g.pool)⟩
    | runs hphase hrun =>
      obtain rfl : phase = _ := hphase
      obtain ⟨rfl, rfl⟩ := Prod.mk.inj (Option.some.inj hturn)
      exact ⟨.background (Worker.patient_of_busy (by simp [Worker.take])),
        .runs rfl rfl rfl (by rfl) hrun⟩
    | ends hphase hrun =>
      obtain rfl : phase = _ := hphase
      obtain ⟨rfl, rfl⟩ := Prod.mk.inj (Option.some.inj hturn)
      exact ⟨.background (Worker.patient_of_lineUp g.depot.moment ⟨id, core, _⟩ g.pool),
        .ends rfl rfl (by rfl) hrun
          (.inl ⟨rfl, Worker.alike_of_lineUp g.depot.moment ⟨id, core, _⟩ g.pool⟩)⟩
    | pulls hphase hqueue =>
      obtain rfl : phase = _ := hphase
      obtain ⟨rfl, rfl⟩ := Prod.mk.inj (Option.some.inj hturn)
      exact ⟨.background (Worker.patient_of_busy (by simp [Worker.take])),
        .pulls rfl rfl rfl (by rfl) hqueue⟩
    | leaves hphase hdry =>
      obtain rfl : phase = _ := hphase
      obtain ⟨rfl, rfl⟩ := Prod.mk.inj (Option.some.inj hturn)
      refine ⟨.gone origin, .leaves rfl rfl rfl rfl (by rfl) fun hcore ↦ hdry ?_⟩
      subst hcore
      exact hpatient

/-- A job that runs by itself. -/
theorem turned_of_detached {origin : PoolTask Dispatch} {job : Dispatch}
    (hstep : (Gateway.Task.background (.detached job)).stepBy (Dispatch.stepOne choice) g =
      some (task, g')) :
    Fits ⟨.background origin, task⟩ ∧
      Turned choice g ⟨.background origin, .background (.detached job)⟩
        ⟨.background origin, task⟩ g' (job.notes choice g.depot) := by
  obtain ⟨⟨turn, plant⟩, hturn, heq⟩ := Option.map_eq_some_iff.mp hstep
  obtain ⟨rfl, rfl⟩ := Prod.mk.inj heq
  rw [PoolTask.step] at hturn
  split at hturn
  · exact absurd hturn (by simp)
  · rename_i job' site hrun
    obtain ⟨rfl, rfl⟩ := Prod.mk.inj (Option.some.inj hturn)
    exact ⟨.background trivial, .runs rfl rfl rfl (by rfl) hrun⟩
  · rename_i reports site hrun
    obtain ⟨rfl, rfl⟩ := Prod.mk.inj (Option.some.inj hturn)
    exact ⟨.gone origin, .ends rfl rfl (by rfl) hrun (.inr (.inl ⟨rfl, rfl, rfl⟩))⟩

end Actor

/-! ### Batches -/

namespace Batch

variable {run : DispatchStep} {t : Batch} {cancelled : Bool} {s : Plant Depot Dispatch}

/-- The moves of a batch that does not wait for a submission: it goes on with as many published, it
ends with as many published, or it submits its next notification. -/
inductive Moved (run : DispatchStep) (t : Batch) (s : Plant Depot Dispatch) : Next → Prop where
  | goes {t' : Batch} (hremaining : t'.remaining = t.remaining)
      (hpublished : t'.result.published = t.result.published) (hbegun : t'.phase ≠ .begun)
      (hphase : ∀ submission left, t'.phase ≠ .waiting submission left) :
      Moved run t s (.going t', s)
  | refused {complaint : String} (hphase : t.phase = .begun) :
      Moved run t s (.done (.error (.invalid complaint)), s)
  | stops {result : BatchResult} (hpublished : result.published = t.result.published) :
      Moved run t s (.done (.ok result), s)
  | submits {n : Notification} {remaining : List Notification} {left : ℕ} {next : Next}
      (hremaining : t.remaining = n :: remaining)
      (hnext : { t with remaining }.submit run (.begun (.pending n)) left s = some next) :
      Moved run t s next

theorem moved_of_beginChunk : Moved run t s (t.beginChunk cancelled s) := by
  rw [beginChunk]
  split
  · exact .stops rfl
  · exact .goes rfl rfl (by simp) (by simp)

theorem moved_of_step {next : Next} (hphase : ∀ submission left, t.phase ≠ .waiting submission left)
    (h : t.step run cancelled s = some next) : Moved run t s next := by
  rw [step] at h
  split at h
  · rename_i hbegun
    split at h <;> obtain rfl := Option.some.inj h
    · exact .refused hbegun
    · exact .goes rfl rfl (by simp) (by simp)
  · split at h
    · obtain rfl := Option.some.inj h
      exact .stops rfl
    · split at h <;> obtain rfl := Option.some.inj h
      · exact .goes rfl rfl (by simp) (by simp)
      · exact moved_of_beginChunk
  · split at h
    · obtain rfl := Option.some.inj h
      exact .stops rfl
    · split at h
      · obtain rfl := Option.some.inj h
        exact moved_of_beginChunk
      · exact absurd h (by simp)
  · split at h
    · rename_i hremaining _
      exact .submits hremaining h
    · obtain rfl := Option.some.inj h
      exact .goes rfl rfl (by simp) (by simp)
  · rename_i submission left hwaiting
    exact absurd hwaiting (hphase submission left)

/-- A notification that a batch submits is turned down, which ends the batch, or accepted, or left
to the batch. -/
theorem submit_begun_cases {n : Notification} {left : ℕ} {next : Next}
    (h : t.submit run (.begun (.pending n)) left s = some next) :
    (∃ reason, next = (.done (.error (.interrupted t.result reason)), s)) ∨
    (∃ result pool, s.pool.submit (.pending n) = (result, pool) ∧
      (result = .queued ∨ result = .spawned) ∧
      next = (.going
        { t with
          phase := .submitting left
          result := { t.result with published := t.result.published + 1 } }, { s with pool })) ∨
    ∃ pool, s.pool.submit (.pending n) = (.lent (.pending n), pool) ∧
      next = (.going { t with phase := .waiting (.running (.pending n)) left },
        ⟨s.site.report .callerRuns, pool⟩) := by
  rw [submit] at h
  cases hstep : (Submission.begun (Dispatch.pending n)).step run (Depot.report · .callerRuns) s with
  | none =>
    rw [hstep] at h
    exact absurd h (by simp)
  | some after =>
    obtain ⟨turn, s'⟩ := after
    rw [hstep] at h
    obtain ⟨reason, rfl, rfl⟩ | ⟨result, pool, outcome, hsubmit, hresult, rfl, rfl⟩ |
      ⟨pool, hsubmit, rfl, rfl⟩ := Submission.begun_cases hstep
    · exact .inl ⟨reason, (Option.some.inj h).symm⟩
    · exact .inr (.inl ⟨result, pool, hsubmit, hresult, (Option.some.inj h).symm⟩)
    · exact .inr (.inr ⟨pool, hsubmit, (Option.some.inj h).symm⟩)

/-- A batch that runs a dispatch goes on submitting when it has ended. -/
theorem submit_running_cases {job : Dispatch} {left : ℕ} {next : Next}
    (h : t.submit run (.running job) left s = some next) :
    (∃ job' site, run job s.site = some (.going job', site) ∧
      next = (.going { t with phase := .waiting (.running job') left }, { s with site })) ∨
    ∃ reports site, run job s.site = some (.done reports, site) ∧
      next = (.going
        { t with
          phase := .submitting left
          result := { t.result with published := t.result.published + 1 } },
        ⟨site, s.pool.giveBack⟩) := by
  rw [submit] at h
  cases hstep : (Submission.running job).step run (Depot.report · .callerRuns) s with
  | none =>
    rw [hstep] at h
    exact absurd h (by simp)
  | some after =>
    obtain ⟨turn, s'⟩ := after
    rw [hstep] at h
    obtain ⟨job', site, hrun, rfl, rfl⟩ | ⟨reports, site, hrun, rfl, rfl⟩ :=
      Submission.running_cases hstep
    · exact .inl ⟨job', site, hrun, (Option.some.inj h).symm⟩
    · exact .inr ⟨reports, site, hrun, (Option.some.inj h).symm⟩

end Batch

namespace Actor

variable {choice : ℕ} {g g' : Gateway} {task : Gateway.Task} {b t : Batch}

/-- A batch that does not wait for a submission runs no job. -/
theorem batch_idle (b : Batch) (hphase : ∀ submission left, t.phase ≠ .waiting submission left) :
    (Gateway.Task.batch t).jobs = [] ∧ (Gateway.Task.batch t).role = .outsider ∧
      accepted ⟨.batch b, .batch t⟩ ++ lent ⟨.batch b, .batch t⟩ =
        b.remaining.take t.result.published := by
  obtain ⟨options, remaining, result, phase⟩ := t
  cases phase with
  | waiting submission left => exact absurd rfl (hphase submission left)
  | begun | between | pausing | submitting => exact ⟨rfl, rfl, List.append_nil _⟩

/-- A batch that does not wait for a submission. -/
theorem turned_of_batch (hphase : ∀ submission left, t.phase ≠ .waiting submission left)
    (hbegun : t.phase = .begun → t.result.published = 0)
    (hdrop : b.remaining.drop t.result.published = t.remaining)
    (hstep : (Gateway.Task.batch t).stepBy (Dispatch.stepOne choice) g = some (task, g')) :
    Fits ⟨.batch b, task⟩ ∧ Turned choice g ⟨.batch b, .batch t⟩ ⟨.batch b, task⟩ g' [] := by
  obtain ⟨hjobs, hrole, htaken⟩ := batch_idle b hphase
  obtain ⟨⟨turn, plant⟩, hturn, hafter⟩ := Option.map_eq_some_iff.mp hstep
  obtain ⟨rfl, rfl⟩ := Prod.mk.inj hafter
  cases Batch.moved_of_step hphase hturn with
  | @goes t' hremaining hpublished hbegun' hphase' =>
    obtain ⟨hjobs', hrole', htaken'⟩ := batch_idle b hphase'
    refine ⟨.batch hphase' (fun h ↦ absurd h hbegun') ?_,
      .idles (hjobs'.trans hjobs.symm) (hrole'.trans hrole.symm) ?_ (Pool.alike_refl _)⟩
    · rw [hpublished, hdrop, hremaining]
    · exact htaken'.trans ((congrArg b.remaining.take hpublished).trans htaken.symm)
  | refused hphase' =>
    refine ⟨.batched b _, .idles hjobs.symm hrole.symm ?_ (Pool.alike_refl _)⟩
    rw [htaken, hbegun hphase', List.take_zero]
    rfl
  | @stops result hpublished =>
    refine ⟨.batched b _, .idles hjobs.symm hrole.symm ?_ (Pool.alike_refl _)⟩
    rw [htaken, ← hpublished]
    exact List.append_nil _
  | @submits n remaining left _ hremaining hnext =>
    obtain ⟨htake, hrest, hone⟩ := take_succ_of_drop (hdrop.trans hremaining)
    obtain ⟨reason, heq⟩ | ⟨result, pool, hsubmit, hresult, heq⟩ | ⟨pool, hlent, heq⟩ :=
      Batch.submit_begun_cases hnext <;> obtain ⟨rfl, rfl⟩ := Prod.mk.inj heq
    · refine ⟨.batched b _, .idles hjobs.symm hrole.symm ?_ (Pool.alike_refl _)⟩
      exact (List.append_nil _).trans htaken.symm
    · refine ⟨.batch (by simp) (by simp) hrest, .submits hsubmit hresult hjobs rfl hrole rfl ?_⟩
      exact (List.append_nil _).trans (htake.trans (congrArg (· ++ [n]) htaken.symm))
    · refine ⟨.waiting _ left (hdrop.trans hremaining),
        .borrows hlent hjobs rfl hrole rfl ?_ (Depot.report_eq _ _)⟩
      exact (congrArg (_ ++ ·) hone).trans (congrArg (· ++ [n]) htaken.symm)

/-- A batch that runs the dispatch of its next notification. -/
theorem turned_of_waiting {options : BatchSettings} {remaining : List Notification}
    {result : BatchResult} {n : Notification} {job : Dispatch} {left : ℕ}
    (hdrop : b.remaining.drop result.published = n :: remaining)
    (hstep : (Gateway.Task.batch ⟨options, remaining, result, .waiting (.running job) left⟩).stepBy
      (Dispatch.stepOne choice) g = some (task, g')) :
    Fits ⟨.batch b, task⟩ ∧
      Turned choice g ⟨.batch b, .batch ⟨options, remaining, result, .waiting (.running job) left⟩⟩
        ⟨.batch b, task⟩ g' (job.notes choice g.depot) := by
  obtain ⟨⟨turn, plant⟩, hturn, hafter⟩ := Option.map_eq_some_iff.mp hstep
  obtain ⟨rfl, rfl⟩ := Prod.mk.inj hafter
  obtain ⟨htake, hrest, hone⟩ := take_succ_of_drop hdrop
  obtain ⟨job', site, hrun, heq⟩ | ⟨reports, site, hrun, heq⟩ :=
    Batch.submit_running_cases hturn <;> obtain ⟨rfl, rfl⟩ := Prod.mk.inj heq
  · exact ⟨.waiting job' left hdrop, .runs rfl rfl rfl (by rfl) hrun⟩
  · refine ⟨.batch (by simp) (by simp) hrest,
      .ends rfl rfl ?_ hrun (.inr (.inr ⟨rfl, rfl, rfl⟩))⟩
    exact (List.append_nil _).trans (htake.trans (congrArg (_ ++ ·) hone.symm))

/-- One who shuts the pool down. -/
theorem turned_of_shutdown {origin t : Shutdown}
    (hstep : (Gateway.Task.shutdown t).stepBy (Dispatch.stepOne choice) g = some (task, g')) :
    Fits ⟨.shutdown origin, task⟩ ∧
      Turned choice g ⟨.shutdown origin, .shutdown t⟩ ⟨.shutdown origin, task⟩ g' [] := by
  obtain ⟨⟨turn, pool⟩, hturn, heq⟩ := Option.map_eq_some_iff.mp hstep
  obtain ⟨rfl, rfl⟩ := Prod.mk.inj heq
  obtain ⟨deadline, rfl, rfl⟩ | ⟨deadline, -, -, rfl, rfl⟩ | ⟨rfl, rfl⟩ :=
    Shutdown.step_cases hturn
  · exact ⟨.shutdown origin _, .idles rfl rfl rfl ⟨rfl, rfl, rfl, rfl, rfl, rfl, fun _ ↦ rfl⟩⟩
  · exact ⟨.drained origin true, .idles rfl rfl rfl (Pool.alike_refl _)⟩
  · exact ⟨.drained origin false, .idles rfl rfl rfl (Pool.alike_refl _)⟩

/-- What the move of an actor does, however far it has come. -/
theorem turned_of_step {a : Actor} (hfits : a.Fits)
    (hstep : a.task.stepBy (Dispatch.stepOne choice) g = some (task, g')) :
    Fits ⟨a.origin, task⟩ ∧
      a.Turned choice g ⟨a.origin, task⟩ g' (deliveries.note choice a.task g) := by
  cases hfits with
  | publishing n => exact turned_of_publishing hstep
  | running n job => exact turned_of_running hstep
  | @batch b t hphase hbegun hdrop =>
    rw [note_of_idle (batch_idle b hphase).1]
    exact turned_of_batch hphase hbegun hdrop hstep
  | waiting job left hdrop => exact turned_of_waiting hdrop hstep
  | shutdown origin t => exact turned_of_shutdown hstep
  | @background origin t hpatient =>
    match t with
    | .worker w => exact turned_of_worker hpatient hstep
    | .detached job => exact turned_of_detached hstep
  | published | batched | drained | gone =>
    exact absurd hstep (by simp [Gateway.Task.stepBy])

end Actor

end Courier

import Courier.Pool.Shutdown
import Courier.Pool.Submission
import Mathlib.Data.List.Basic

/-!
# The staff of a pool

A pool keeps three numbers: of its workers, of the jobs that run by themselves and of the jobs that
callers run. They agree with the tasks there are (`Staffed`). The same invariant says why nothing
that was accepted is forgotten: as long as a job is in the queue, or a caller runs one and may still
hand others to the queue, there is a core worker, and a core worker goes only when there is neither.

`Pool.submit_cases` is what submitting a job can come to; the lemmas on `Staffed` say what each move
of the pool's tasks does.
-/

set_option autoImplicit false
set_option relaxedAutoImplicit false

namespace Courier

/-- What a task is to a pool. -/
inductive Role where
  | worker (core : Bool)
  | detached
  /-- A caller runs a job. -/
  | lending
  | outsider
  deriving DecidableEq, Repr

namespace PoolTask

variable {Job : Type}

def role : PoolTask Job → Role
  | .worker w => .worker w.core
  | .detached _ => .detached

/-- The jobs that a task has taken. -/
def jobs : PoolTask Job → List Job
  | .worker ⟨_, _, .starting first⟩ => first.toList
  | .worker ⟨_, _, .working job⟩ => [job]
  | .worker ⟨_, _, .idle _⟩ => []
  | .detached job => [job]

/-- A core worker in line does not wait for its time to be up. -/
def Patient : PoolTask Job → Prop
  | .worker ⟨_, true, .idle deadline⟩ => deadline = none
  | _ => True

end PoolTask

namespace Pool

variable {Job : Type} {p : Pool Job}

/-- The jobs that wait, in the queue or with tasks that have not run yet. -/
def jobs (p : Pool Job) : List Job := p.queue ++ p.fresh.flatMap PoolTask.jobs

/-- The tasks of a role: those that have not run yet and others. -/
def census (p : Pool Job) (others : Role → ℕ) (r : Role) : ℕ :=
  p.fresh.countP (fun t ↦ t.role = r) + others r

theorem census_of_fresh (p p' : Pool Job) {t : PoolTask Job} (h : p'.fresh = p.fresh ++ [t])
    (others : Role → ℕ) (r : Role) :
    p'.census others r = p.census others r + if t.role = r then 1 else 0 := by
  rw [census, census, h, List.countP_append, List.countP_singleton, Nat.add_right_comm]
  simp only [decide_eq_true_eq]

theorem jobs_of_fresh (p p' : Pool Job) {t : PoolTask Job} {job : Job}
    (hqueue : p'.queue = p.queue) (h : p'.fresh = p.fresh ++ [t]) (hjob : t.jobs = [job]) :
    p'.jobs.Perm (job :: p.jobs) := by
  rw [jobs, jobs, hqueue, h, List.flatMap_append, List.flatMap_singleton, hjob,
    ← List.append_assoc]
  exact List.perm_append_comm

/-! ### Submitting a job -/

/-- The core workers that are missing are hired, without jobs. -/
theorem staff_eq (p : Pool Job) :
    ∃ (hired : List (PoolTask Job)) (started : ℕ),
      hired.length = p.settings.coreWorkers - p.workers ∧
      (∀ t ∈ hired, t.role = .worker true ∧ t.jobs = [] ∧ t.Patient) ∧
      p.staff = { p with
        workers := p.workers + hired.length
        started
        fresh := p.fresh ++ hired } := by
  have hrange : ∀ (l : List ℕ) (p : Pool Job), ∃ (hired : List (PoolTask Job)) (started : ℕ),
      hired.length = l.length ∧ (∀ t ∈ hired, t.role = .worker true ∧ t.jobs = [] ∧ t.Patient) ∧
      l.foldl (fun p _ ↦ p.hire none true) p =
        { p with
          workers := p.workers + hired.length
          started
          fresh := p.fresh ++ hired } := by
    intro l
    induction l with
    | nil => exact fun p ↦ ⟨[], p.started, rfl, by simp, by simp⟩
    | cons first rest ih =>
      intro p
      obtain ⟨hired, started, hlength, hall, heq⟩ := ih (p.hire none true)
      refine ⟨.worker ⟨p.started, true, .starting none⟩ :: hired, started, by simp [hlength],
        ?_, ?_⟩
      · intro t ht
        obtain rfl | ht := List.mem_cons.mp ht
        · exact ⟨rfl, rfl, trivial⟩
        · exact hall t ht
      · rw [List.foldl_cons, heq]
        simp [hire, Nat.add_assoc, Nat.add_comm 1]
  obtain ⟨hired, started, hlength, hall, heq⟩ :=
    hrange (List.range (p.settings.coreWorkers - p.workers)) p
  exact ⟨hired, started, by rw [hlength, List.length_range], hall, heq⟩

/-- Staffing adds the core workers that are missing, and nobody else. -/
theorem census_staff (p : Pool Job) (others : Role → ℕ) (r : Role) :
    p.staff.census others r = p.census others r +
      if r = .worker true then p.settings.coreWorkers - p.workers else 0 := by
  obtain ⟨hired, started, hlength, hall, heq⟩ := p.staff_eq
  have hcount : hired.countP (fun t ↦ t.role = r) =
      if r = .worker true then hired.length else 0 := by
    split
    · rename_i hr
      exact List.countP_eq_length.mpr fun t ht ↦ by simp [hall t ht, hr]
    · rename_i hr
      exact List.countP_eq_zero.mpr fun t ht ↦ by simp [hall t ht, Ne.symm hr]
  rw [← hlength, heq, census, census, List.countP_append, hcount]
  omega

/-- What submitting a job comes to. -/
theorem submit_cases (p : Pool Job) (job : Job) :
    (p.closed = true ∧ p.submit job = (.refused .shutDown, p)) ∨
    (p.closed = false ∧ p.settings.mode = .unbounded ∧ p.submit job =
      (.spawned, { p with detached := p.detached + 1, fresh := p.fresh ++ [.detached job] })) ∨
    (p.closed = false ∧ p.settings.mode = .bounded ∧
      (p.submit job = (.queued, { p.staff with queue := p.staff.queue ++ [job] }) ∨
        p.submit job = (.spawned, p.staff.hire (some job) false) ∨
        p.submit job = (.lent job, { p.staff with lent := p.staff.lent + 1 }))) := by
  unfold submit
  cases hclosed : p.closed with
  | true => exact .inl ⟨rfl, rfl⟩
  | false =>
    cases hmode : p.settings.mode with
    | unbounded => exact .inr (.inl ⟨rfl, rfl, rfl⟩)
    | bounded =>
      refine .inr (.inr ⟨rfl, rfl, ?_⟩)
      by_cases hroom : p.staff.queue.length < p.staff.capacity
      · exact .inl (by simp [hroom])
      · by_cases hworkers : p.staff.workers < p.staff.settings.maxWorkers
        · exact .inr (.inl (by simp [hroom, hworkers]))
        · exact .inr (.inr (by simp [hroom, hworkers]))

/-- A closed pool turns every job down. -/
theorem submit_of_closed (h : p.closed = true) (job : Job) :
    p.submit job = (.refused .shutDown, p) := by
  rw [submit, if_pos h]

end Pool

/-- A pool with the same jobs and the same staff. -/
structure Pool.Alike {Job : Type} (p p' : Pool Job) : Prop where
  settings : p'.settings = p.settings
  queue : p'.queue = p.queue
  fresh : p'.fresh = p.fresh
  workers : p'.workers = p.workers
  detached : p'.detached = p.detached
  lent : p'.lent = p.lent
  closed : p.closed = true → p'.closed = true

theorem Pool.alike_refl {Job : Type} (p : Pool Job) : p.Alike p :=
  ⟨rfl, rfl, rfl, rfl, rfl, rfl, id⟩

theorem Pool.isDrained_iff {Job : Type} {p : Pool Job} :
    p.isDrained = true ↔ p.workers = 0 ∧ p.detached = 0 := by
  rw [Pool.isDrained, Bool.and_eq_true, decide_eq_true_eq, decide_eq_true_eq]

theorem Pool.Alike.isDrained {Job : Type} {p p' : Pool Job} (h : p.Alike p')
    (hdrained : p.isDrained = true) : p'.isDrained = true := by
  rw [Pool.isDrained_iff] at hdrained ⊢
  rwa [h.workers, h.detached]

theorem Pool.Alike.jobs {Job : Type} {p p' : Pool Job} (h : p.Alike p') : p'.jobs = p.jobs := by
  rw [Pool.jobs, Pool.jobs, h.queue, h.fresh]

/-- The numbers of a pool agree with its tasks, and core workers tend to what waits and to what
callers may still bring. -/
structure Staffed {Job : Type} (p : Pool Job) (others : Role → ℕ) : Prop where
  workers : p.workers = p.census others (.worker true) + p.census others (.worker false)
  detached : p.detached = p.census others .detached
  lent : p.lent = p.census others .lending
  /-- The core workers of an open pool stay. -/
  manned : p.closed = false → p.workers = 0 ∨ 0 < p.census others (.worker true)
  tended : p.census others (.worker true) = 0 → p.queue = [] ∧ p.lent = 0
  patient : ∀ t ∈ p.fresh, t.Patient

/-- One of the others has changed its role. -/
def Reassigned (others others' : Role → ℕ) (old new : Role) : Prop :=
  ∀ r, others' r + (if r = old then 1 else 0) = others r + if r = new then 1 else 0

/-- One who keeps its role changes nothing. -/
theorem Reassigned.eq {others others' : Role → ℕ} {role : Role}
    (h : Reassigned others others' role role) : others' = others :=
  funext fun r ↦ Nat.add_right_cancel (h r)

namespace Staffed

variable {Job : Type} {p : Pool Job} {others others' : Role → ℕ}

/-- A pool with its core workers, who have jobs to do if it had none yet. -/
theorem staff (h : Staffed p others) (hopen : p.closed = false)
    (hcore : 1 ≤ p.settings.coreWorkers) :
    Staffed p.staff others ∧ 0 < p.staff.census others (.worker true) ∧
      p.staff.settings = p.settings ∧ p.staff.jobs = p.jobs := by
  obtain ⟨hired, started, hlength, hall, heq⟩ := p.staff_eq
  have hroles : ∀ r, p.staff.census others r =
      p.census others r + if r = .worker true then hired.length else 0 := by
    intro r
    rw [hlength]
    exact p.census_staff others r
  have hjobs : p.staff.jobs = p.jobs := by
    have hnone : hired.flatMap PoolTask.jobs = [] :=
      List.flatMap_eq_nil_iff.mpr fun t ht ↦ (hall t ht).2.1
    rw [heq, Pool.jobs, Pool.jobs, List.flatMap_append, hnone, List.append_nil]
  have hworkers : p.staff.workers = p.workers + hired.length := by rw [heq]
  -- without workers all core workers are missing, and there are some; otherwise one is there
  have hsome : 0 < p.staff.census others (.worker true) := by
    rw [hroles, if_pos rfl]
    have hmanned := h.manned hopen
    omega
  refine ⟨⟨?_, ?_, ?_, fun _ ↦ .inr hsome, fun hnone ↦ ?_, ?_⟩, hsome, by rw [heq], hjobs⟩
  · have hbefore := h.workers
    rw [hworkers, hroles, hroles, if_pos rfl, if_neg (by simp)]
    omega
  · rw [hroles, if_neg (by simp), heq]
    exact h.detached
  · rw [hroles, if_neg (by simp), heq]
    exact h.lent
  · exact absurd hsome (by omega)
  · intro t ht
    rw [heq] at ht
    obtain ht | ht := List.mem_append.mp ht
    · exact h.patient t ht
    · exact (hall t ht).2.2

/-- A task that is started is patient. -/
theorem patient_fresh {started : PoolTask Job} (h : Staffed p others) (hstarted : started.Patient) :
    ∀ t ∈ p.fresh ++ [started], t.Patient := by
  intro t ht
  obtain ht | ht := List.mem_append.mp ht
  · exact h.patient t ht
  · exact List.mem_singleton.mp ht ▸ hstarted

/-- A job of its own is started. -/
theorem spawn (h : Staffed p others) (job : Job) :
    Staffed { p with detached := p.detached + 1, fresh := p.fresh ++ [.detached job] } others := by
  have hroles := p.census_of_fresh
    { p with detached := p.detached + 1, fresh := p.fresh ++ [.detached job] } rfl others
  refine ⟨?_, ?_, ?_, ?_, ?_, h.patient_fresh trivial⟩
  · rw [hroles, hroles]
    exact h.workers
  · rw [hroles, ← h.detached]
    rfl
  · rw [hroles]
    exact h.lent
  · rw [hroles]
    exact h.manned
  · rw [hroles]
    exact h.tended

/-- A job is put into the queue, where a core worker tends to it. -/
theorem enqueue (h : Staffed p others) (hsome : 0 < p.census others (.worker true)) (job : Job) :
    Staffed { p with queue := p.queue ++ [job] } others :=
  { h with tended := fun hnone ↦ absurd hnone (Nat.pos_iff_ne_zero.mp hsome) }

/-- A worker is hired for a job. -/
theorem hire (h : Staffed p others) (hsome : 0 < p.census others (.worker true)) (job : Job) :
    Staffed (p.hire (some job) false) others := by
  have hroles := p.census_of_fresh (p.hire (some job) false) rfl others
  have hcores : (p.hire (some job) false).census others (.worker true) =
      p.census others (.worker true) := hroles _
  refine ⟨?_, ?_, ?_, fun _ ↦ .inr (hcores ▸ hsome), fun hnone ↦ ?_, h.patient_fresh trivial⟩
  · rw [hroles, hroles]
    exact congrArg Nat.succ h.workers
  · rw [hroles]
    exact h.detached
  · rw [hroles]
    exact h.lent
  · exact absurd (hcores.symm.trans hnone) (Nat.pos_iff_ne_zero.mp hsome)

/-- A job is left to its caller. -/
theorem lend (h : Staffed p others) (hsome : 0 < p.census others (.worker true))
    (hothers : Reassigned others others' .outsider .lending) :
    Staffed { p with lent := p.lent + 1 } others' := by
  have hsame : ∀ r, r ≠ .outsider → p.census others' r =
      p.census others r + if r = .lending then 1 else 0 := by
    intro r hr
    have hrole := hothers r
    rw [if_neg hr] at hrole
    exact (congrArg (_ + ·) hrole).trans (Nat.add_assoc _ _ _).symm
  have hcores := hsame (.worker true) (by simp)
  have hmore := hsame (.worker false) (by simp)
  have hdetached := hsame .detached (by simp)
  have hlent := hsame .lending (by simp)
  rw [if_neg (by simp), Nat.add_zero] at hcores hmore hdetached
  rw [if_pos rfl, ← h.lent] at hlent
  refine ⟨?_, ?_, hlent.symm, fun _ ↦ .inr (hcores ▸ hsome), fun hnone ↦ ?_, h.patient⟩
  · exact h.workers.trans (congrArg₂ _ hcores.symm hmore.symm)
  · exact h.detached.trans hdetached.symm
  · exact absurd (hcores.symm.trans hnone) (Nat.pos_iff_ne_zero.mp hsome)

/-- A job that is submitted is turned down by a closed pool, which stays what it is; or the pool
takes it, or leaves it to the caller, and all jobs are there. -/
theorem submit (h : Staffed p others)
    (hcore : p.settings.mode = .bounded → 1 ≤ p.settings.coreWorkers) (job : Job) :
    (p.closed = true ∧ p.submit job = (.refused .shutDown, p)) ∨
    (∃ result p', p.submit job = (result, p') ∧ (result = .queued ∨ result = .spawned) ∧
      Staffed p' others ∧ p'.settings = p.settings ∧ p.closed = false ∧
      p'.jobs.Perm (job :: p.jobs)) ∨
    ∃ p', p.submit job = (.lent job, p') ∧
      (∀ others', Reassigned others others' .outsider .lending → Staffed p' others') ∧
      p'.settings = p.settings ∧ p.closed = false ∧ p'.jobs = p.jobs := by
  obtain hclosed | ⟨hopen, hmode, heq⟩ | ⟨hopen, hmode, hcases⟩ := p.submit_cases job
  · exact .inl hclosed
  · exact .inr (.inl ⟨_, _, heq, .inr rfl, h.spawn job, rfl, hopen,
      Pool.jobs_of_fresh _ _ rfl rfl rfl⟩)
  · obtain ⟨hstaff, hsome, hsettings, hjobs⟩ := h.staff hopen (hcore hmode)
    rw [← hjobs]
    obtain heq | heq | heq := hcases
    · refine .inr (.inl ⟨_, _, heq, .inl rfl, hstaff.enqueue hsome job, hsettings, hopen, ?_⟩)
      rw [Pool.jobs, Pool.jobs, List.append_assoc]
      exact List.perm_middle
    · exact .inr (.inl ⟨_, _, heq, .inr rfl, hstaff.hire hsome job, hsettings, hopen,
        Pool.jobs_of_fresh _ _ rfl rfl rfl⟩)
    · exact .inr (.inr ⟨_, heq, fun _ hothers ↦ hstaff.lend hsome hothers, hsettings, hopen, rfl⟩)

/-- A job that the pool takes is there and nothing else has changed. -/
theorem of_taken {job : Job} {result : Submitted Job} {p' : Pool Job} (h : Staffed p others)
    (hcore : p.settings.mode = .bounded → 1 ≤ p.settings.coreWorkers)
    (hsubmit : p.submit job = (result, p')) (hresult : result = .queued ∨ result = .spawned) :
    Staffed p' others ∧ p'.settings = p.settings ∧ p.closed = false ∧
      p'.jobs.Perm (job :: p.jobs) := by
  obtain ⟨-, heq⟩ | ⟨result', p'', heq, -, hstaffed, hsettings, hopen, hjobs⟩ | ⟨p'', heq, -⟩ :=
    h.submit hcore job
  · obtain ⟨rfl, -⟩ := Prod.mk.inj (hsubmit.symm.trans heq)
    exact absurd hresult (by simp)
  · obtain ⟨rfl, rfl⟩ := Prod.mk.inj (hsubmit.symm.trans heq)
    exact ⟨hstaffed, hsettings, hopen, hjobs⟩
  · obtain ⟨rfl, -⟩ := Prod.mk.inj (hsubmit.symm.trans heq)
    exact absurd hresult (by simp)

/-- A job that is left to its caller is not with the pool. -/
theorem of_lent {job job' : Job} {p' : Pool Job} (h : Staffed p others)
    (hcore : p.settings.mode = .bounded → 1 ≤ p.settings.coreWorkers)
    (hsubmit : p.submit job = (.lent job', p'))
    (hothers : Reassigned others others' .outsider .lending) :
    Staffed p' others' ∧ p'.settings = p.settings ∧ p.closed = false ∧ p'.jobs = p.jobs := by
  obtain ⟨-, heq⟩ | ⟨result', p'', heq, hresult, -⟩ |
    ⟨p'', heq, hstaffed, hsettings, hopen, hjobs⟩ := h.submit hcore job
  · exact absurd (hsubmit.symm.trans heq) (by simp)
  · obtain ⟨rfl, -⟩ := Prod.mk.inj (hsubmit.symm.trans heq)
    exact absurd hresult (by simp)
  · obtain ⟨-, rfl⟩ := Prod.mk.inj (hsubmit.symm.trans heq)
    exact ⟨hstaffed _ hothers, hsettings, hopen, hjobs⟩

/-! ### The moves of the tasks -/

/-- Outsiders do not count. -/
theorem congr (h : Staffed p others) (hothers : ∀ r, r ≠ .outsider → others' r = others r) :
    Staffed p others' := by
  have hcensus : ∀ r, r ≠ .outsider → p.census others' r = p.census others r := by
    intro r hr
    rw [Pool.census, Pool.census, hothers r hr]
  refine ⟨?_, ?_, ?_, ?_, ?_, h.patient⟩
  · rw [hcensus _ (by simp), hcensus _ (by simp)]
    exact h.workers
  · rw [hcensus _ (by simp)]
    exact h.detached
  · rw [hcensus _ (by simp)]
    exact h.lent
  · rw [hcensus _ (by simp)]
    exact h.manned
  · rw [hcensus _ (by simp)]
    exact h.tended

/-- A pool is closed, or its line changes. -/
theorem alike {p' : Pool Job} (h : Staffed p others) (halike : p.Alike p') :
    Staffed p' others := by
  have hcensus : ∀ r, p'.census others r = p.census others r := by
    intro r
    rw [Pool.census, Pool.census, halike.fresh]
  refine ⟨?_, ?_, ?_, fun hopen ↦ ?_, fun hnone ↦ ?_, halike.fresh ▸ h.patient⟩
  · rw [halike.workers, hcensus, hcensus, h.workers]
  · rw [halike.detached, hcensus, h.detached]
  · rw [halike.lent, hcensus, h.lent]
  · rw [halike.workers, hcensus]
    refine h.manned (Bool.eq_false_iff.mpr fun hclosed ↦ ?_)
    exact absurd (hopen.symm.trans (halike.closed hclosed)) (by simp)
  · rw [hcensus] at hnone
    rw [halike.lent, halike.queue]
    exact h.tended hnone

/-- A worker takes a job from the queue. -/
theorem pull {job : Job} {queue : List Job} (h : Staffed p others)
    (hqueue : p.queue = job :: queue) (line : List ℕ) :
    Staffed { p with queue, line } others :=
  { h with
    tended := fun hnone ↦ absurd (hqueue.symm.trans (h.tended hnone).1) (by simp) }

/-- The tasks of a role after one of the others has become an outsider. -/
theorem census_of_leave {old : Role} (p p' : Pool Job) (hfresh : p'.fresh = p.fresh)
    (hothers : Reassigned others others' old .outsider) (r : Role) (hr : r ≠ .outsider) :
    p'.census others' r + (if r = old then 1 else 0) = p.census others r := by
  have hrole := hothers r
  rw [if_neg hr] at hrole
  rw [Pool.census, Pool.census, hfresh, Nat.add_assoc, hrole]
  rfl

/-- A worker goes. A core worker only goes when nothing waits and nothing will come. -/
theorem dismiss {core : Bool} (h : Staffed p others)
    (hothers : Reassigned others others' (.worker core) .outsider) (id : ℕ)
    (hcore : core = true → p.queue = [] ∧ p.isDry = true) : Staffed (p.dismiss id) others' := by
  have hcensus := census_of_leave p (p.dismiss id) rfl hothers
  have hcores := hcensus (.worker true) (by simp)
  have hmore := hcensus (.worker false) (by simp)
  have hbefore := h.workers
  have hafter : (p.dismiss id).workers = p.workers - 1 := rfl
  refine ⟨?_, ?_, ?_, fun hopen ↦ ?_, fun hnone ↦ ?_, h.patient⟩
  · cases core <;> simp at hcores hmore <;> omega
  · exact h.detached.trans (hcensus .detached (by simp)).symm
  · exact h.lent.trans (hcensus .lending (by simp)).symm
  · have hmanned := h.manned hopen
    cases core with
    | true =>
      have hdry := (hcore rfl).2
      rw [Pool.isDry, show p.closed = false from hopen] at hdry
      exact absurd hdry (by simp)
    | false =>
      simp at hcores hmore
      omega
  · cases core with
    | true =>
      obtain ⟨hqueue, hdry⟩ := hcore rfl
      exact ⟨hqueue, of_decide_eq_true (Bool.and_eq_true_iff.mp hdry).2⟩
    | false =>
      simp at hcores
      exact h.tended (by omega)

/-- A job that runs by itself ends. -/
theorem detach (h : Staffed p others) (hothers : Reassigned others others' .detached .outsider) :
    Staffed { p with detached := p.detached - 1 } others' := by
  have hcensus := census_of_leave p { p with detached := p.detached - 1 } rfl hothers
  have hcores := hcensus (.worker true) (by simp)
  have hmore := hcensus (.worker false) (by simp)
  have hdetached := hcensus .detached (by simp)
  rw [if_neg (by simp), Nat.add_zero] at hcores hmore
  rw [if_pos rfl, ← h.detached] at hdetached
  refine ⟨?_, ?_, ?_, fun hopen ↦ ?_, fun hnone ↦ ?_, h.patient⟩
  · rw [hcores, hmore]
    exact h.workers
  · exact (Nat.eq_sub_of_add_eq hdetached).symm
  · exact h.lent.trans (hcensus .lending (by simp)).symm
  · rw [hcores]
    exact h.manned hopen
  · exact h.tended (hcores ▸ hnone)

/-- A caller has run its job. -/
theorem giveBack (h : Staffed p others) (hothers : Reassigned others others' .lending .outsider) :
    Staffed p.giveBack others' := by
  have hcensus := census_of_leave p p.giveBack rfl hothers
  have hcores := hcensus (.worker true) (by simp)
  have hmore := hcensus (.worker false) (by simp)
  have hlent := hcensus .lending (by simp)
  rw [if_neg (by simp), Nat.add_zero] at hcores hmore
  rw [if_pos rfl, ← h.lent] at hlent
  refine ⟨?_, ?_, ?_, fun hopen ↦ ?_, fun hnone ↦ ?_, h.patient⟩
  · rw [hcores, hmore]
    exact h.workers
  · exact h.detached.trans (hcensus .detached (by simp)).symm
  · exact (Nat.eq_sub_of_add_eq hlent).symm
  · rw [hcores]
    exact h.manned hopen
  · obtain ⟨hqueue, hzero⟩ := h.tended (hcores ▸ hnone)
    exact ⟨hqueue, by rw [Pool.giveBack, hzero]⟩

/-- The tasks that were started begin. -/
theorem takeFresh (h : Staffed p others)
    (hothers : ∀ r, others' r = others r + p.fresh.countP fun t ↦ t.role = r) :
    Staffed p.takeFresh.2 others' := by
  have hcensus : ∀ r, p.takeFresh.2.census others' r = p.census others r := by
    intro r
    rw [Pool.census, Pool.census, hothers, Nat.add_comm (others r)]
    exact Nat.zero_add _
  refine ⟨?_, ?_, ?_, fun hopen ↦ ?_, fun hnone ↦ ?_, by simp [Pool.takeFresh]⟩
  · rw [hcensus, hcensus]
    exact h.workers
  · rw [hcensus]
    exact h.detached
  · rw [hcensus]
    exact h.lent
  · rw [hcensus]
    exact h.manned hopen
  · exact h.tended (hcensus _ ▸ hnone)

/-- A pool without workers and without jobs that run by themselves is idle: no job waits, no task is
about to begin, and no caller runs a job. -/
theorem idle (h : Staffed p others) (hdrained : p.isDrained = true) :
    p.queue = [] ∧ p.fresh = [] ∧ ∀ r, r ≠ .outsider → others r = 0 := by
  obtain ⟨hworkers, hdetached⟩ := Pool.isDrained_iff.mp hdrained
  have hdetached := h.detached.symm.trans hdetached
  obtain ⟨hcores, hmore⟩ := Nat.add_eq_zero_iff.mp (h.workers.symm.trans hworkers)
  obtain ⟨hqueue, hlent⟩ := h.tended hcores
  have hcensus : ∀ r, r ≠ .outsider → p.census others r = 0 := by
    intro r hr
    match r with
    | .worker true => exact hcores
    | .worker false => exact hmore
    | .detached => exact hdetached
    | .lending => exact h.lent.symm.trans hlent
    | .outsider => exact absurd rfl hr
  refine ⟨hqueue, List.eq_nil_iff_forall_not_mem.mpr fun t ht ↦ ?_,
    fun r hr ↦ (Nat.add_eq_zero_iff.mp (hcensus r hr)).2⟩
  have hrole : t.role ≠ .outsider := by cases t <;> simp [PoolTask.role]
  have hnone := List.countP_eq_zero.mp (Nat.add_eq_zero_iff.mp (hcensus t.role hrole)).1 t ht
  exact hnone (decide_eq_true rfl)

end Staffed

/-! ### Workers -/

namespace Worker

variable {Site Job Result : Type}

theorem patient_of_busy {w : Worker Job} (h : ∀ deadline, w.phase ≠ .idle deadline) :
    (PoolTask.worker w).Patient := by
  obtain ⟨id, core, phase⟩ := w
  cases phase with
  | starting first => cases core <;> trivial
  | working job => cases core <;> trivial
  | idle deadline => exact absurd rfl (h deadline)

theorem patient_of_lineUp (now : Moment) (w : Worker Job) (p : Pool Job) :
    (PoolTask.worker (w.lineUp now p).1).Patient := by
  obtain ⟨id, core, phase⟩ := w
  cases core <;> trivial

/-- The pool with a longer line. -/
theorem alike_of_lineUp (now : Moment) (w : Worker Job) (p : Pool Job) :
    p.Alike (w.lineUp now p).2 :=
  ⟨rfl, rfl, rfl, rfl, rfl, rfl, fun hclosed ↦ hclosed⟩

/-- The moves of a worker. One that waits in line only as long as the pool is open goes when nothing
waits and nothing will come. -/
inductive Moved (run : JobStep Site Job Result) (now : Moment) (w : Worker Job)
    (s : Plant Site Job) : Turn (Worker Job) Unit → Plant Site Job → Prop where
  | begins {job : Job} (hphase : w.phase = .starting (some job)) :
      Moved run now w s (.going (w.take job)) s
  | linesUp (hphase : w.phase = .starting none) :
      Moved run now w s (.going (w.lineUp now s.pool).1) ⟨s.site, (w.lineUp now s.pool).2⟩
  | runs {job job' : Job} {site : Site} (hphase : w.phase = .working job)
      (hrun : run job s.site = some (.going job', site)) :
      Moved run now w s (.going (w.take job')) { s with site }
  | ends {job : Job} {result : Result} {site : Site} (hphase : w.phase = .working job)
      (hrun : run job s.site = some (.done result, site)) :
      Moved run now w s (.going (w.lineUp now s.pool).1) ⟨site, (w.lineUp now s.pool).2⟩
  | pulls {deadline : Option ℕ} {job : Job} {queue : List Job} (hphase : w.phase = .idle deadline)
      (hqueue : s.pool.queue = job :: queue) :
      Moved run now w s (.going (w.take job))
        { s with pool := { s.pool with queue, line := s.pool.line.tail } }
  | leaves {deadline : Option ℕ} (hphase : w.phase = .idle deadline)
      (hdry : deadline = none → s.pool.queue = [] ∧ s.pool.isDry = true) :
      Moved run now w s (.done ()) { s with pool := s.pool.dismiss w.id }

theorem moved_of_step {run : JobStep Site Job Result} {now : Moment} {w : Worker Job}
    {s : Plant Site Job} {next : Turn (Worker Job) Unit × Plant Site Job}
    (h : w.step run now s = some next) : Moved run now w s next.1 next.2 := by
  rw [step] at h
  simp only at h
  split at h
  · rename_i job hphase
    obtain rfl := Option.some.inj h
    exact .begins hphase
  · rename_i hphase
    obtain rfl := Option.some.inj h
    exact .linesUp hphase
  · rename_i job hphase
    split at h
    · exact absurd h (by simp)
    · rename_i job' site hrun
      obtain rfl := Option.some.inj h
      exact .runs hphase hrun
    · rename_i result site hrun
      obtain rfl := Option.some.inj h
      exact .ends hphase hrun
  · rename_i deadline hphase
    split at h
    · split at h
      · rename_i job queue hqueue
        obtain rfl := Option.some.inj h
        exact .pulls hphase hqueue
      · rename_i hqueue
        split at h
        · rename_i hleave
          obtain rfl := Option.some.inj h
          refine .leaves hphase fun hnone ↦ ⟨hqueue, ?_⟩
          simpa [hnone] using hleave
        · exact absurd h (by simp)
    · split at h
      · rename_i hoverdue
        obtain rfl := Option.some.inj h
        exact .leaves hphase fun hnone ↦ absurd hoverdue (by simp [hnone])
      · exact absurd h (by simp)

end Worker

/-! ### Submissions -/

namespace Submission

variable {Site Job Result : Type} {run : JobStep Site Job Result} {note : Site → Site}
  {s s' : Plant Site Job} {turn : Turn (Submission Job) (Except PoolError SubmitOutcome)}

/-- A job that is submitted is turned down, which changes nothing, or accepted, or left to the
caller. -/
theorem begun_cases {job : Job} (h : (begun job).step run note s = some (turn, s')) :
    (∃ reason, turn = .done (.error reason) ∧ s' = s) ∨
    (∃ result pool outcome, s.pool.submit job = (result, pool) ∧
      (result = .queued ∨ result = .spawned) ∧ turn = .done (.ok outcome) ∧
      s' = { s with pool }) ∨
    ∃ pool, s.pool.submit job = (.lent job, pool) ∧ turn = .going (.running job) ∧
      s' = ⟨note s.site, pool⟩ := by
  rw [step] at h
  obtain ⟨-, heq⟩ | ⟨-, -, heq⟩ | ⟨-, -, heq | heq | heq⟩ := s.pool.submit_cases job <;>
    rw [heq] at h <;> obtain ⟨rfl, rfl⟩ := Prod.mk.inj (Option.some.inj h)
  · exact .inl ⟨_, rfl, rfl⟩
  · exact .inr (.inl ⟨_, _, _, heq, .inr rfl, rfl, rfl⟩)
  · exact .inr (.inl ⟨_, _, _, heq, .inl rfl, rfl, rfl⟩)
  · exact .inr (.inl ⟨_, _, _, heq, .inr rfl, rfl, rfl⟩)
  · exact .inr (.inr ⟨_, heq, rfl, rfl⟩)

/-- A caller that runs its job ends when the job does. -/
theorem running_cases {job : Job} (h : (running job).step run note s = some (turn, s')) :
    (∃ job' site, run job s.site = some (.going job', site) ∧ turn = .going (.running job') ∧
      s' = { s with site }) ∨
    ∃ result site, run job s.site = some (.done result, site) ∧ turn = .done (.ok .callerRan) ∧
      s' = ⟨site, s.pool.giveBack⟩ := by
  rw [step] at h
  split at h
  · exact absurd h (by simp)
  · rename_i job' site hrun
    obtain ⟨rfl, rfl⟩ := Prod.mk.inj (Option.some.inj h)
    exact .inl ⟨job', site, hrun, rfl, rfl⟩
  · rename_i result site hrun
    obtain ⟨rfl, rfl⟩ := Prod.mk.inj (Option.some.inj h)
    exact .inr ⟨result, site, hrun, rfl, rfl⟩

end Submission

/-! ### Shutdowns -/

/-- A shutdown closes the pool; it ends with true if the pool is drained and with false if its time
is up. -/
theorem Shutdown.step_cases {Job : Type} {now : Moment} {t : Shutdown} {p p' : Pool Job}
    {turn : Turn Shutdown Bool} (h : t.step now p = some (turn, p')) :
    (∃ deadline, turn = .going (.draining deadline) ∧ p' = p.close) ∨
    (∃ deadline, t = .draining deadline ∧ p.isDrained = true ∧ turn = .done true ∧ p' = p) ∨
    (turn = .done false ∧ p' = p) := by
  cases t with
  | begun =>
    obtain ⟨rfl, rfl⟩ := Prod.mk.inj (Option.some.inj h)
    exact .inl ⟨_, rfl, rfl⟩
  | draining deadline =>
    rw [step] at h
    split at h
    · rename_i hdrained
      obtain ⟨rfl, rfl⟩ := Prod.mk.inj (Option.some.inj h)
      exact .inr (.inl ⟨deadline, rfl, hdrained, rfl, rfl⟩)
    · split at h
      · obtain ⟨rfl, rfl⟩ := Prod.mk.inj (Option.some.inj h)
        exact .inr (.inr ⟨rfl, rfl⟩)
      · exact absurd h (by simp)

/-! ### New pools -/

/-- A bounded pool has core workers. -/
theorem PoolSettings.core_of_valid {s : PoolSettings} (hvalid : s.invalid? = none)
    (hbounded : s.mode = .bounded) : 1 ≤ s.coreWorkers := by
  refine Nat.not_lt.mp fun hnone ↦ ?_
  rw [invalid?, if_neg (by simp [hbounded]), if_pos hnone] at hvalid
  exact absurd hvalid (by simp)

/-- A new pool has no jobs, and no task was started on it. -/
theorem Pool.new_eq {Job : Type} {settings : PoolSettings} {p : Pool Job}
    (h : Pool.new settings = .ok p) :
    p.settings = settings ∧ p.jobs = [] ∧ Staffed p fun _ ↦ 0 := by
  unfold Pool.new at h
  split at h
  · exact absurd h (by simp)
  · obtain rfl := Except.ok.inj h
    exact ⟨rfl, rfl, rfl, rfl, rfl, fun _ ↦ .inl rfl, fun _ ↦ ⟨rfl, rfl⟩, by simp⟩

end Courier

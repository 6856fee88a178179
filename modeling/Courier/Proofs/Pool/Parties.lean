import Courier.Metrics
import Courier.Proofs.Counting
import Courier.Proofs.Pool.Bounded

/-!
# Those who use a pool

A party is someone at a pool: a caller with a job to submit, a task of the pool, or one who shuts
the pool down. A job is known by its number and does as it likes: whenever it is run it goes on, or
ends, or ends in a crash (`Party.turn`).

What happens to jobs is noted, read off a party before and after its turn (`Party.notes`).
`Party.Turned` has one constructor for each turn that a party at a bounded pool can take. Two lemmas
say what a turn does: `Turned.manned`, that the pool keeps to its settings, and `Turned.flow`, that
jobs go from the queue or with a new worker to those who run them, in their order and one by one.
-/

set_option autoImplicit false
set_option relaxedAutoImplicit false

namespace Courier

/-! ### What happens to jobs -/

/-- What can happen to a job. -/
inductive JobNote.Kind where
  | refused
  | queued
  /-- A worker is hired for it. -/
  | hired
  /-- It is left to its caller, who starts with it at once. -/
  | lent
  /-- A worker takes it from the queue and starts with it. -/
  | pulled
  /-- The worker that was hired for it starts with it. -/
  | begun
  | ended
  deriving DecidableEq, Repr

/-- Something that happened to a job. -/
structure JobNote where
  kind : JobNote.Kind
  job : ℕ

/-- What happened to jobs, the latest first. -/
abbrev JobLog := List JobNote

namespace JobLog

/-- The jobs to which something of some kinds happened, the latest first. -/
def of (kinds : List JobNote.Kind) (log : JobLog) : List ℕ :=
  (log.filter fun n ↦ n.kind ∈ kinds).map JobNote.job

/-- The jobs that were submitted. -/
abbrev submitted (log : JobLog) : List ℕ := log.of [.refused, .queued, .hired, .lent]

/-- The jobs that were not refused. -/
abbrev accepted (log : JobLog) : List ℕ := log.of [.queued, .hired, .lent]

/-- The jobs that someone started with. -/
abbrev started (log : JobLog) : List ℕ := log.of [.lent, .pulled, .begun]

theorem of_append (kinds : List JobNote.Kind) (log log' : JobLog) :
    of kinds (log ++ log') = log.of kinds ++ log'.of kinds := by
  rw [of, List.filter_append, List.map_append]
  rfl

@[simp] theorem of_cons (kinds : List JobNote.Kind) (kind : JobNote.Kind) (job : ℕ) (log : JobLog) :
    of kinds (⟨kind, job⟩ :: log) = if kind ∈ kinds then job :: log.of kinds else log.of kinds := by
  unfold of
  by_cases h : kind ∈ kinds <;> simp [h]

@[simp] theorem of_nil (kinds : List JobNote.Kind) : of kinds [] = [] := rfl

/-- The jobs to which something of a further kind happened come on top. -/
theorem of_kinds_cons {kind : JobNote.Kind} {kinds : List JobNote.Kind} (hkind : kind ∉ kinds)
    (log : JobLog) : (log.of (kind :: kinds)).Perm (log.of [kind] ++ log.of kinds) := by
  induction log with
  | nil => exact .refl _
  | cons note log ih =>
    obtain ⟨k, job⟩ := note
    by_cases hsame : k = kind
    · subst hsame
      simpa [hkind] using ih
    · by_cases hmem : k ∈ kinds
      · simpa [hsame, hmem] using (ih.cons job).trans List.perm_middle.symm
      · simpa [hsame, hmem] using ih

end JobLog

/-! ### Parties -/

section Tasks

variable {Job : Type}

/-- The job with which a worker has not started yet. -/
@[simp] def Worker.Phase.first : Worker.Phase Job → List Job
  | .starting first => first.toList
  | _ => []

/-- The job that a worker runs. -/
@[simp] def Worker.Phase.running : Worker.Phase Job → List Job
  | .working job => [job]
  | _ => []

/-- The job with which a task has not started yet. -/
@[simp] def PoolTask.first : PoolTask Job → List Job
  | .worker w => w.phase.first
  | .detached _ => []

/-- The job that a task runs. -/
@[simp] def PoolTask.running : PoolTask Job → List Job
  | .worker w => w.phase.running
  | .detached job => [job]

end Tasks

/-- Someone at a pool. -/
inductive Party where
  | caller (submission : Submission ℕ)
  /-- A caller who has an answer. -/
  | answered (answer : Except PoolError SubmitOutcome)
  | member (task : PoolTask ℕ)
  | gone
  | closer (shutdown : Shutdown)
  | shut (drained : Bool)

namespace Party

/-- What a party is to the pool. -/
def role : Party → Role
  | caller (.running _) => .lending
  | member t => t.role
  | _ => .outsider

/-- The job with which a party has not started yet. -/
@[simp] def first : Party → List ℕ
  | member t => t.first
  | _ => []

/-- The job that a party runs. -/
@[simp] def running : Party → List ℕ
  | caller (.running job) => [job]
  | member t => t.running
  | _ => []

/-- A job that is run goes on, or ends with a result. -/
def work (result : Option (Except Crash Unit)) : JobStep (List Event) ℕ (Except Crash Unit) :=
  fun job events ↦ some (result.elim (.going job) .done, events)

/-- One turn of a party; none if it has none. The result is that of the job that it runs. -/
def turn (m : Moment) (result : Option (Except Crash Unit)) (a : Party)
    (s : Plant (List Event) ℕ) : Option (Party × Plant (List Event) ℕ) :=
  match a with
  | caller t =>
    match t.step (work result) (Event.callerRuns :: ·) s with
    | none => none
    | some (.going t, s) => some (caller t, s)
    | some (.done answer, s) => some (answered answer, s)
  | member t =>
    match t.step (work result) m s with
    | none => none
    | some (.going t, s) => some (member t, s)
    | some (.done (), s) => some (gone, s)
  | closer t =>
    match t.step m s.pool with
    | none => none
    | some (.going t, pool) => some (closer t, { s with pool })
    | some (.done drained, pool) => some (shut drained, { s with pool })
  | _ => none

/-- What a worker does with jobs when its phase becomes another. -/
def workerNotes : Worker.Phase ℕ → Worker.Phase ℕ → JobLog
  | .starting (some job), .working _ => [⟨.begun, job⟩]
  | .idle _, .working job => [⟨.pulled, job⟩]
  | .working job, .idle _ => [⟨.ended, job⟩]
  | _, _ => []

/-- What happens to jobs when a party becomes another. -/
def notes : Party → Party → JobLog
  | caller (.begun job), answered (.error _) => [⟨.refused, job⟩]
  | caller (.begun job), answered (.ok .queued) => [⟨.queued, job⟩]
  | caller (.begun job), answered (.ok .spawned) => [⟨.hired, job⟩]
  | caller (.begun job), caller (.running _) => [⟨.lent, job⟩]
  | caller (.running job), answered _ => [⟨.ended, job⟩]
  | member (.worker w), member (.worker w') => workerNotes w.phase w'.phase
  | _, _ => []

/-- The turns of a party at a bounded pool, with what is noted of jobs. -/
inductive Turned (m : Moment) (s : Plant (List Event) ℕ) :
    Party → Party → Plant (List Event) ℕ → JobLog → Prop where
  | refused {job : ℕ} (hclosed : s.pool.closed = true) :
      Turned m s (caller (.begun job)) (answered (.error .shutDown)) s [⟨.refused, job⟩]
  | queued {job : ℕ} (hopen : s.pool.closed = false)
      (hroom : s.pool.queue.length < s.pool.capacity) :
      Turned m s (caller (.begun job)) (answered (.ok .queued))
        { s with pool := { s.pool.staff with queue := s.pool.queue ++ [job] } } [⟨.queued, job⟩]
  | hired {job : ℕ} (hopen : s.pool.closed = false)
      (hfull : ¬ s.pool.queue.length < s.pool.capacity)
      (hworkers : s.pool.staff.workers < s.pool.settings.maxWorkers) :
      Turned m s (caller (.begun job)) (answered (.ok .spawned))
        { s with pool := s.pool.staff.hire (some job) false } [⟨.hired, job⟩]
  | lent {job : ℕ} (hopen : s.pool.closed = false)
      (hfull : ¬ s.pool.queue.length < s.pool.capacity)
      (hworkers : ¬ s.pool.staff.workers < s.pool.settings.maxWorkers) :
      Turned m s (caller (.begun job)) (caller (.running job))
        ⟨.callerRuns :: s.site, { s.pool.staff with lent := s.pool.lent + 1 }⟩ [⟨.lent, job⟩]
  /-- The job that the party runs goes on. -/
  | continues (a : Party) (hjob : a.running ≠ []) : Turned m s a a s []
  | returns {job : ℕ} :
      Turned m s (caller (.running job)) (answered (.ok .callerRan))
        { s with pool := s.pool.giveBack } [⟨.ended, job⟩]
  | begins {w : Worker ℕ} {job : ℕ} (hphase : w.phase = .starting (some job)) :
      Turned m s (member (.worker w)) (member (.worker (w.take job))) s [⟨.begun, job⟩]
  | arrives {w : Worker ℕ} (hphase : w.phase = .starting none) :
      Turned m s (member (.worker w)) (member (.worker (w.lineUp m s.pool).1))
        { s with pool := (w.lineUp m s.pool).2 } []
  | finishes {w : Worker ℕ} {job : ℕ} (hphase : w.phase = .working job) :
      Turned m s (member (.worker w)) (member (.worker (w.lineUp m s.pool).1))
        { s with pool := (w.lineUp m s.pool).2 } [⟨.ended, job⟩]
  | pulls {w : Worker ℕ} {deadline : Option ℕ} {job : ℕ} {queue : List ℕ}
      (hphase : w.phase = .idle deadline) (hqueue : s.pool.queue = job :: queue) :
      Turned m s (member (.worker w)) (member (.worker (w.take job)))
        { s with pool := { s.pool with queue, line := s.pool.line.tail } } [⟨.pulled, job⟩]
  | leaves {w : Worker ℕ} {deadline : Option ℕ} (hphase : w.phase = .idle deadline)
      (hdry : deadline = none → s.pool.queue = [] ∧ s.pool.isDry = true) :
      Turned m s (member (.worker w)) gone { s with pool := s.pool.dismiss w.id } []
  | closes (deadline : ℕ) :
      Turned m s (closer .begun) (closer (.draining deadline)) { s with pool := s.pool.close } []
  | drains {deadline : ℕ} (hdrained : s.pool.isDrained = true) :
      Turned m s (closer (.draining deadline)) (shut true) s []
  | expires (deadline : ℕ) : Turned m s (closer (.draining deadline)) (shut false) s []

variable {m : Moment} {s s' : Plant (List Event) ℕ} {a b : Party} {log : JobLog}
  {result : Option (Except Crash Unit)}

theorem turned_of_begun {job : ℕ} (hmode : s.pool.settings.mode = .bounded)
    (h : (caller (.begun job)).turn m result s = some (b, s')) :
    Turned m s (caller (.begun job)) b s' (notes (caller (.begun job)) b) := by
  cases hclosed : s.pool.closed with
  | true =>
    have hsubmit := Pool.submit_of_closed hclosed job
    simp only [turn, Submission.step, hsubmit, Option.some.injEq, Prod.mk.injEq] at h
    obtain ⟨rfl, rfl⟩ := h
    exact .refused hclosed
  | false =>
    have hsubmit := Pool.submit_of_open hclosed hmode job
    split_ifs at hsubmit with hroom hworkers
    · simp only [turn, Submission.step, hsubmit, Option.some.injEq, Prod.mk.injEq] at h
      obtain ⟨rfl, rfl⟩ := h
      exact .queued hclosed hroom
    · simp only [turn, Submission.step, hsubmit, Option.some.injEq, Prod.mk.injEq] at h
      obtain ⟨rfl, rfl⟩ := h
      exact .hired hclosed hroom hworkers
    · simp only [turn, Submission.step, hsubmit, Option.some.injEq, Prod.mk.injEq] at h
      obtain ⟨rfl, rfl⟩ := h
      exact .lent hclosed hroom hworkers

theorem turned_of_running {job : ℕ} (h : (caller (.running job)).turn m result s = some (b, s')) :
    Turned m s (caller (.running job)) b s' (notes (caller (.running job)) b) := by
  cases result with
  | none =>
    simp only [turn, Submission.step, work, Option.elim, Option.some.injEq, Prod.mk.injEq] at h
    obtain ⟨rfl, rfl⟩ := h
    exact .continues _ (by simp [running])
  | some result =>
    simp only [turn, Submission.step, work, Option.elim, Option.some.injEq, Prod.mk.injEq] at h
    obtain ⟨rfl, rfl⟩ := h
    exact .returns

theorem turned_of_worker {w : Worker ℕ} (h : (member (.worker w)).turn m result s = some (b, s')) :
    Turned m s (member (.worker w)) b s' (notes (member (.worker w)) b) := by
  cases hstep : w.step (work result) m s with
  | none => simp [turn, PoolTask.step, hstep] at h
  | some next =>
    have hmoved := Worker.moved_of_step hstep
    obtain ⟨next, plant⟩ := next
    simp only [turn, PoolTask.step, hstep] at h
    cases hmoved with
    | begins hphase =>
      obtain ⟨rfl, rfl⟩ := Prod.mk.inj (Option.some.inj h)
      simp only [notes, hphase, Worker.take, workerNotes]
      exact .begins hphase
    | linesUp hphase =>
      obtain ⟨rfl, rfl⟩ := Prod.mk.inj (Option.some.inj h)
      simp only [notes, hphase, Worker.lineUp, workerNotes]
      exact .arrives hphase
    | @runs job job' site hphase hrun =>
      obtain ⟨rfl, rfl⟩ := Prod.mk.inj (Option.some.inj h)
      cases result with
      | some result => simp [work] at hrun
      | none =>
        obtain ⟨hjob, hsite⟩ : job = job' ∧ s.site = site := by simpa [work] using hrun
        have hsame : w.take job' = w := by rw [← hjob, Worker.take, ← hphase]
        rw [← hsite, hsame]
        simp only [notes, hphase, workerNotes]
        exact .continues _ (by simp [hphase])
    | ends hphase hrun =>
      obtain ⟨rfl, rfl⟩ := Prod.mk.inj (Option.some.inj h)
      cases result with
      | none => simp [work] at hrun
      | some result =>
        obtain ⟨-, rfl⟩ : _ = _ ∧ _ = _ := by simpa [work] using hrun
        simp only [notes, hphase, Worker.lineUp, workerNotes]
        exact .finishes hphase
    | pulls hphase hqueue =>
      obtain ⟨rfl, rfl⟩ := Prod.mk.inj (Option.some.inj h)
      simp only [notes, hphase, Worker.take, workerNotes]
      exact .pulls hphase hqueue
    | leaves hphase hdry =>
      obtain ⟨rfl, rfl⟩ := Prod.mk.inj (Option.some.inj h)
      exact .leaves hphase hdry

theorem turned_of_closer {t : Shutdown} (h : (closer t).turn m result s = some (b, s')) :
    Turned m s (closer t) b s' (notes (closer t) b) := by
  cases t with
  | begun =>
    simp only [turn, Shutdown.step, Option.some.injEq, Prod.mk.injEq] at h
    obtain ⟨rfl, rfl⟩ := h
    exact .closes _
  | draining deadline =>
    simp only [turn, Shutdown.step] at h
    split_ifs at h with hdrained hover
    · simp only [Option.some.injEq, Prod.mk.injEq] at h
      obtain ⟨rfl, rfl⟩ := h
      exact .drains hdrained
    · simp only [Option.some.injEq, Prod.mk.injEq] at h
      obtain ⟨rfl, rfl⟩ := h
      exact .expires deadline

/-- At a bounded pool, where no job runs by itself, the parties take no other turns. -/
theorem turned_of_turn (hmode : s.pool.settings.mode = .bounded) (hrole : a.role ≠ .detached)
    (h : a.turn m result s = some (b, s')) : Turned m s a b s' (notes a b) := by
  cases a with
  | caller t =>
    cases t with
    | begun job => exact turned_of_begun hmode h
    | running job => exact turned_of_running h
  | member t =>
    cases t with
    | worker w => exact turned_of_worker h
    | detached job => exact absurd rfl hrole
  | closer t => exact turned_of_closer h
  | answered answer => simp [turn] at h
  | gone => simp [turn] at h
  | shut drained => simp [turn] at h

/-! ### What a turn does to the pool -/

/-- A core worker in line does not wait for its time to be up. -/
def Patient : Party → Prop
  | member t => t.Patient
  | _ => True

/-- Whatever turn a party takes, the pool keeps to its settings. -/
theorem Turned.manned {settings : PoolSettings} {others others' : Role → ℕ} {used used' : Prop}
    (h : Turned m s a b s' log) (hvalid : settings.invalid? = none)
    (hmode : settings.mode = .bounded) (hpatient : a.Patient)
    (hothers : Reassigned others others' a.role b.role)
    (hused : log.accepted = [] → used' → used) (hm : s.pool.Manned settings others used) :
    s'.pool.Manned settings others' used' := by
  obtain ⟨hone, -, hcapacity⟩ := Pool.bounds_of_valid hvalid hmode
  have hqueue := hm.capacity_eq hcapacity
  cases h with
  | refused =>
    obtain rfl := hothers.eq
    exact hm.mono (hused rfl)
  | queued hopen hroom =>
    obtain rfl := hothers.eq
    obtain ⟨hstaff, hcore⟩ := hm.staff hopen hvalid hmode
    rw [hqueue, ← s.pool.staff_queue] at hroom
    rw [← s.pool.staff_queue]
    exact hstaff.enqueue hcore hone hroom _
  | hired hopen hfull hworkers =>
    obtain rfl := hothers.eq
    obtain ⟨hstaff, hcore⟩ := hm.staff hopen hvalid hmode
    rw [hm.settings_eq] at hworkers
    exact hstaff.hire hcore hone hworkers _
  | lent hopen hfull hworkers =>
    obtain ⟨hstaff, hcore⟩ := hm.staff hopen hvalid hmode
    rw [← s.pool.staff_lent]
    exact hstaff.lend hcore hone hothers
  | continues =>
    obtain rfl := hothers.eq
    exact hm.mono (hused rfl)
  | returns => exact (hm.giveBack hothers).mono (hused rfl)
  | begins =>
    obtain rfl := hothers.eq
    exact hm.mono (hused rfl)
  | arrives =>
    obtain rfl := hothers.eq
    exact (hm.alike (Worker.alike_of_lineUp m _ s.pool) id).mono (hused rfl)
  | finishes =>
    obtain rfl := hothers.eq
    exact (hm.alike (Worker.alike_of_lineUp m _ s.pool) id).mono (hused rfl)
  | pulls hphase hjobs =>
    obtain rfl := hothers.eq
    exact (hm.pull hjobs _).mono (hused rfl)
  | @leaves w deadline hphase hdry =>
    refine (hm.dismiss hothers w.id fun hcore ↦ hdry ?_).mono (hused rfl)
    obtain ⟨id, core, phase⟩ := w
    obtain rfl : phase = .idle deadline := hphase
    obtain rfl : core = true := hcore
    exact hpatient
  | closes deadline =>
    obtain rfl := hothers.eq
    have halike : s.pool.Alike s.pool.close := ⟨rfl, rfl, rfl, rfl, rfl, rfl, fun _ ↦ rfl⟩
    exact (hm.alike halike fun hopen ↦ absurd hopen (by simp [Pool.close])).mono (hused rfl)
  | drains =>
    obtain rfl := hothers.eq
    exact hm.mono (hused rfl)
  | expires =>
    obtain rfl := hothers.eq
    exact hm.mono (hused rfl)

/-! ### What a turn does to jobs -/

/-- Jobs move in their order from the queue to those who pull them, and one by one from those who
have not started with them to those who run them. -/
structure Flow (a : Party) (p : Pool ℕ) (b : Party) (p' : Pool ℕ) (log : JobLog) : Prop where
  queue : log.of [.queued] ++ p.queue.reverse = p'.queue.reverse ++ log.of [.pulled]
  first : (log.of [.hired] ++ (p.fresh.flatMap PoolTask.first ++ a.first)).Perm
    (p'.fresh.flatMap PoolTask.first ++ b.first ++ log.of [.begun])
  running : (log.started ++ (p.fresh.flatMap PoolTask.running ++ a.running)).Perm
    (p'.fresh.flatMap PoolTask.running ++ b.running ++ log.of [.ended])

/-- The core workers who are hired bring no jobs. -/
theorem flatMap_staff (p : Pool ℕ) :
    p.staff.fresh.flatMap PoolTask.first = p.fresh.flatMap PoolTask.first ∧
      p.staff.fresh.flatMap PoolTask.running = p.fresh.flatMap PoolTask.running := by
  obtain ⟨hired, started, -, hall, heq⟩ := p.staff_eq
  have hnone : ∀ t ∈ hired, t.first = [] ∧ t.running = [] := by
    intro t ht
    have hjobs := (hall t ht).2.1
    match t with
    | .worker ⟨_, _, .starting first⟩ => exact ⟨hjobs, rfl⟩
    | .worker ⟨_, _, .working job⟩ => cases hjobs
    | .worker ⟨_, _, .idle _⟩ => exact ⟨rfl, rfl⟩
    | .detached job => cases hjobs
  rw [heq]
  simp only [List.flatMap_append]
  rw [List.flatMap_eq_nil_iff.mpr fun t ht ↦ (hnone t ht).1,
    List.flatMap_eq_nil_iff.mpr fun t ht ↦ (hnone t ht).2, List.append_nil, List.append_nil]
  exact ⟨rfl, rfl⟩

theorem Turned.flow (h : Turned m s a b s' log) : Flow a s.pool b s'.pool log := by
  obtain ⟨hfirst, hrunning⟩ := flatMap_staff s.pool
  cases h with
  | refused => constructor <;> simp
  | queued => constructor <;> simp [hfirst, hrunning]
  | @hired job =>
    constructor
    · simp [Pool.hire]
    · simpa [Pool.hire, hfirst] using (List.perm_append_singleton job _).symm
    · simp [Pool.hire, hrunning]
  | @lent job =>
    constructor
    · simp
    · simp [hfirst]
    · simpa [hrunning] using (List.perm_append_singleton job _).symm
  | continues => constructor <;> simp
  | returns => constructor <;> simp [Pool.giveBack]
  | @begins w job hphase =>
    constructor
    · simp
    · simp [hphase, Worker.take]
    · simpa [hphase, Worker.take] using (List.perm_append_singleton job _).symm
  | arrives hphase => constructor <;> simp [hphase, Worker.lineUp]
  | finishes hphase => constructor <;> simp [hphase, Worker.lineUp]
  | @pulls w deadline job queue hphase hqueue =>
    constructor
    · simp [hqueue]
    · simp [hphase, Worker.take]
    · simpa [hphase, Worker.take] using (List.perm_append_singleton job _).symm
  | leaves hphase => constructor <;> simp [hphase, Pool.dismiss]
  | closes => constructor <;> simp [Pool.close]
  | drains => constructor <;> simp
  | expires => constructor <;> simp

/-- Only a job that is left to its caller is reported. -/
theorem Turned.events (h : Turned m s a b s' log) :
    s'.site.count .callerRuns = s.site.count .callerRuns + (log.of [.lent]).length := by
  cases h <;> simp

/-! ### What parties know -/

/-- What was noted of the job of a caller, who is known by its place, agrees with its answer. -/
def Filed (log : JobLog) (place : ℕ) : Party → Prop
  | caller (.begun job) => job = place ∧ place ∉ log.submitted
  | caller (.running job) => job = place ∧ place ∈ log.of [.lent]
  | answered (.error reason) => reason = .shutDown ∧ place ∈ log.of [.refused]
  | answered (.ok .queued) => place ∈ log.of [.queued]
  | answered (.ok .spawned) => place ∈ log.of [.hired]
  | answered (.ok .callerRan) => place ∈ log.of [.lent] ∧ place ∈ log.of [.ended]
  | _ => True

/-- The jobs of others do not matter. -/
theorem Filed.append {more : JobLog} {place : ℕ} (h : a.Filed log place)
    (hmore : place ∉ more.submitted) : a.Filed (more ++ log) place := by
  have hmono : ∀ {kinds}, place ∈ log.of kinds → place ∈ JobLog.of kinds (more ++ log) := by
    intro kinds hmem
    rw [JobLog.of_append]
    exact List.mem_append_right _ hmem
  unfold Filed at h ⊢
  split
  · refine ⟨h.1, fun hmem ↦ ?_⟩
    rw [JobLog.submitted, JobLog.of_append] at hmem
    exact (List.mem_append.mp hmem).elim hmore h.2
  · exact ⟨h.1, hmono h.2⟩
  · exact ⟨h.1, hmono h.2⟩
  · exact hmono h
  · exact hmono h
  · exact ⟨hmono h.1, hmono h.2⟩
  · trivial

/-- A party submits nothing but its own job, and this once. -/
theorem Turned.filed {place : ℕ} {past : JobLog} (h : Turned m s a b s' log)
    (ha : a.Filed past place) :
    b.Filed (log ++ past) place ∧
      (log.submitted = [] ∨ log.submitted = [place] ∧ place ∉ past.submitted) := by
  cases h with
  | refused =>
    obtain ⟨rfl, hnew⟩ := ha
    exact ⟨⟨rfl, by simp⟩, .inr ⟨by simp, hnew⟩⟩
  | queued =>
    obtain ⟨rfl, hnew⟩ := ha
    exact ⟨by simp [Filed], .inr ⟨by simp, hnew⟩⟩
  | hired =>
    obtain ⟨rfl, hnew⟩ := ha
    exact ⟨by simp [Filed], .inr ⟨by simp, hnew⟩⟩
  | lent =>
    obtain ⟨rfl, hnew⟩ := ha
    exact ⟨⟨rfl, by simp⟩, .inr ⟨by simp, hnew⟩⟩
  | continues => exact ⟨ha, .inl rfl⟩
  | returns =>
    obtain ⟨rfl, hlent⟩ := ha
    exact ⟨by simpa [Filed] using hlent, .inl rfl⟩
  | begins => exact ⟨trivial, .inl rfl⟩
  | arrives => exact ⟨trivial, .inl rfl⟩
  | finishes => exact ⟨trivial, .inl rfl⟩
  | pulls => exact ⟨trivial, .inl rfl⟩
  | leaves => exact ⟨trivial, .inl rfl⟩
  | closes => exact ⟨trivial, .inl rfl⟩
  | drains => exact ⟨trivial, .inl rfl⟩
  | expires => exact ⟨trivial, .inl rfl⟩

/-- The party has closed the pool. -/
@[simp] def hasClosed : Party → Bool
  | closer (.draining _) => true
  | shut _ => true
  | _ => false

theorem Turned.patient (h : Turned m s a b s' log) (ha : a.Patient) : b.Patient := by
  cases h with
  | continues => exact ha
  | begins => exact Worker.patient_of_busy (by simp [Worker.take])
  | arrives => exact Worker.patient_of_lineUp ..
  | finishes => exact Worker.patient_of_lineUp ..
  | pulls => exact Worker.patient_of_busy (by simp [Worker.take])
  | _ => trivial

/-- A pool is closed by one who shuts it down, and is never opened again. -/
theorem Turned.closed (h : Turned m s a b s' log) :
    (a.hasClosed = true → b.hasClosed = true) ∧
      (s'.pool.closed = true ↔
        s.pool.closed = true ∨ a.hasClosed = false ∧ b.hasClosed = true) := by
  cases h with
  | finishes => simp [Worker.lineUp]
  | arrives => simp [Worker.lineUp]
  | leaves => simp [Pool.dismiss]
  | returns => simp [Pool.giveBack]
  | closes => simp [Pool.close]
  | hired => simp [Pool.hire]
  | _ => simp

/-- A closed pool without workers stays so. -/
theorem Turned.still (h : Turned m s a b s' log) (hclosed : s.pool.closed = true)
    (hdrained : s.pool.isDrained = true) : s'.pool.isDrained = true := by
  have hopen : s.pool.closed ≠ false := by simp [hclosed]
  obtain ⟨hworkers, hdetached⟩ := Pool.isDrained_iff.mp hdrained
  cases h with
  | queued h => exact absurd h hopen
  | hired h => exact absurd h hopen
  | lent h => exact absurd h hopen
  | leaves => exact Pool.isDrained_iff.mpr ⟨by rw [Pool.dismiss, hworkers], hdetached⟩
  | _ => exact hdrained

/-- Who shuts a pool down and answers that it is drained is right. -/
theorem Turned.drained (h : Turned m s a (shut true) s' log) : s'.pool.isDrained = true := by
  cases h with
  | continues _ hjob => exact absurd rfl hjob
  | drains hdrained => exact hdrained

end Party

end Courier

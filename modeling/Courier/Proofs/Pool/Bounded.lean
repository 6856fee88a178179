import Courier.Proofs.Pool.Staffing

/-!
# Bounded pools

A bounded pool has no more workers than its settings allow and no more jobs in the queue; once it
has been used, it has exactly its core workers as long as it is open. `Pool.Manned` says so, on top
of the numbers that `Staffed` keeps, and each move of a task of the pool keeps it.

`Pool.submit_of_open` is the order in which an open pool decides on a job: into the queue, to a new
worker, back to the caller.
-/

set_option autoImplicit false
set_option relaxedAutoImplicit false

namespace Courier.Pool

variable {Job : Type} {p p' : Pool Job} {settings : PoolSettings} {others others' : Role → ℕ}
  {used used' : Prop}

/-- A bounded pool keeps to its settings; `used` is whether it has accepted a job yet. -/
structure Manned (settings : PoolSettings) (p : Pool Job) (others : Role → ℕ) (used : Prop) :
    Prop where
  staffed : Staffed p others
  settings_eq : p.settings = settings
  detached_eq : p.detached = 0
  workers_le : p.workers ≤ settings.maxWorkers
  queue_le : p.queue.length ≤ settings.queueCapacity
  core : p.closed = false →
    p.census others (.worker true) = settings.coreWorkers ∨
      p.workers = 0 ∧ p.queue = [] ∧ ¬ used

/-- Settings of a bounded pool in which nothing is wrong. -/
theorem bounds_of_valid (hvalid : settings.invalid? = none) (hmode : settings.mode = .bounded) :
    1 ≤ settings.coreWorkers ∧ settings.coreWorkers ≤ settings.maxWorkers ∧
      1 ≤ settings.queueCapacity := by
  unfold PoolSettings.invalid? at hvalid
  rw [if_neg (by simp [hmode])] at hvalid
  split_ifs at hvalid
  omega

/-- A new pool has not been used. -/
theorem manned_new (hnew : Pool.new settings = .ok p) (hused : ¬ used) :
    p.Manned settings (fun _ ↦ 0) used := by
  obtain ⟨hsettings, -, hstaffed⟩ := Pool.new_eq hnew
  unfold Pool.new at hnew
  split_ifs at hnew
  obtain rfl := Except.ok.inj hnew
  exact ⟨hstaffed, hsettings, rfl, Nat.zero_le _, Nat.zero_le _, fun _ ↦ .inr ⟨rfl, rfl, hused⟩⟩

@[simp] theorem staff_queue (p : Pool Job) : p.staff.queue = p.queue := by
  obtain ⟨hired, started, -, -, heq⟩ := p.staff_eq
  rw [heq]

@[simp] theorem staff_closed (p : Pool Job) : p.staff.closed = p.closed := by
  obtain ⟨hired, started, -, -, heq⟩ := p.staff_eq
  rw [heq]

@[simp] theorem staff_lent (p : Pool Job) : p.staff.lent = p.lent := by
  obtain ⟨hired, started, -, -, heq⟩ := p.staff_eq
  rw [heq]

/-- What an open bounded pool does with a job. -/
theorem submit_of_open (hopen : p.closed = false) (hmode : p.settings.mode = .bounded) (job : Job) :
    p.submit job =
      if p.queue.length < p.capacity then (.queued, { p.staff with queue := p.queue ++ [job] })
      else if p.staff.workers < p.settings.maxWorkers then (.spawned, p.staff.hire (some job) false)
      else (.lent job, { p.staff with lent := p.lent + 1 }) := by
  obtain ⟨hired, started, -, -, heq⟩ := p.staff_eq
  rw [submit, hopen, hmode]
  simp only [Bool.false_eq_true, if_false]
  rw [heq]
  rfl

namespace Manned

theorem mono (h : p.Manned settings others used) (hused : used' → used) :
    p.Manned settings others used' :=
  { h with
    core := fun hopen ↦ by
      rcases h.core hopen with hcore | ⟨hnone, hempty, hunused⟩
      · exact .inl hcore
      · exact .inr ⟨hnone, hempty, mt hused hunused⟩ }

/-! ### Submitting a job -/

/-- The settings leave room in a queue for as many jobs as they say. -/
theorem capacity_eq (h : p.Manned settings others used) (hcapacity : 1 ≤ settings.queueCapacity) :
    p.capacity = settings.queueCapacity := by
  rw [capacity, h.settings_eq]
  omega

/-- While core workers are there, no more of them are needed. -/
theorem core_le_workers (h : p.Manned settings others used)
    (hcore : p.census others (.worker true) = settings.coreWorkers) :
    settings.coreWorkers ≤ p.workers := by
  have hworkers := h.staffed.workers
  omega

/-- A full queue has been used, so the core workers are there. -/
theorem workers_staff (h : p.Manned settings others used) (hopen : p.closed = false)
    (hqueue : p.queue ≠ []) : p.staff.workers = p.workers := by
  obtain ⟨hired, started, hlength, -, heq⟩ := p.staff_eq
  obtain hcore | ⟨-, hempty, -⟩ := h.core hopen
  · have hle := h.core_le_workers hcore
    rw [h.settings_eq] at hlength
    rw [heq]
    change p.workers + hired.length = p.workers
    omega
  · exact absurd hempty hqueue

/-- A pool with its core workers. -/
theorem staff (h : p.Manned settings others used) (hopen : p.closed = false)
    (hvalid : settings.invalid? = none) (hmode : settings.mode = .bounded) :
    p.staff.Manned settings others True ∧
      p.staff.census others (.worker true) = settings.coreWorkers := by
  obtain ⟨hone, hmax, -⟩ := bounds_of_valid hvalid hmode
  obtain ⟨hired, started, hlength, -, heq⟩ := p.staff_eq
  obtain ⟨hstaffed, -, hsettings, -⟩ := h.staffed.staff hopen (h.settings_eq ▸ hone)
  rw [h.settings_eq] at hlength
  have hworkers : p.staff.workers = p.workers + hired.length := by rw [heq]
  have hcensus := p.census_staff others (.worker true)
  rw [if_pos rfl, h.settings_eq, ← hlength] at hcensus
  have hbefore := h.staffed.workers
  have hcore : p.staff.census others (.worker true) = settings.coreWorkers := by
    rcases h.core hopen with hcore | ⟨hnone, -, -⟩ <;> omega
  refine ⟨⟨hstaffed, hsettings.trans h.settings_eq, ?_, ?_, ?_, fun _ ↦ .inl hcore⟩, hcore⟩
  · rw [heq]
    exact h.detached_eq
  · have hle := h.workers_le
    omega
  · rw [heq]
    exact h.queue_le

/-- A job is put into the queue. -/
theorem enqueue (h : p.Manned settings others used)
    (hcore : p.census others (.worker true) = settings.coreWorkers)
    (hone : 1 ≤ settings.coreWorkers) (hroom : p.queue.length < settings.queueCapacity)
    (job : Job) : Manned settings { p with queue := p.queue ++ [job] } others used' :=
  { h with
    staffed := h.staffed.enqueue (by omega) job
    queue_le := by
      rw [List.length_append]
      exact hroom
    core := fun _ ↦ .inl hcore }

/-- A worker is hired for a job. -/
theorem hire (h : p.Manned settings others used)
    (hcore : p.census others (.worker true) = settings.coreWorkers)
    (hone : 1 ≤ settings.coreWorkers) (hworkers : p.workers < settings.maxWorkers) (job : Job) :
    Manned settings (p.hire (some job) false) others used' := by
  have hcensus : (p.hire (some job) false).census others (.worker true) =
      p.census others (.worker true) := p.census_of_fresh (p.hire (some job) false) rfl others _
  exact
    { h with
      staffed := h.staffed.hire (by omega) job
      workers_le := hworkers
      core := fun _ ↦ .inl (hcensus.trans hcore) }

/-- A job is left to its caller. -/
theorem lend (h : p.Manned settings others used)
    (hcore : p.census others (.worker true) = settings.coreWorkers)
    (hone : 1 ≤ settings.coreWorkers) (hothers : Reassigned others others' .outsider .lending) :
    Manned settings { p with lent := p.lent + 1 } others' used' := by
  have hsame : others' (.worker true) = others (.worker true) := by
    simpa using hothers (.worker true)
  refine { h with staffed := h.staffed.lend (by omega) hothers, core := fun _ ↦ .inl ?_ }
  rw [census, hsame]
  exact hcore

/-! ### The moves of the tasks -/

/-- The line changes, or the pool is closed. -/
theorem alike (h : p.Manned settings others used) (halike : p.Alike p')
    (hopen : p'.closed = false → p.closed = false) : p'.Manned settings others used := by
  refine ⟨h.staffed.alike halike, halike.settings.trans h.settings_eq,
    halike.detached.trans h.detached_eq, ?_, ?_, fun hp' ↦ ?_⟩
  · rw [halike.workers]
    exact h.workers_le
  · rw [halike.queue]
    exact h.queue_le
  · rw [census, halike.fresh, halike.workers, halike.queue]
    exact h.core (hopen hp')

/-- A worker takes a job from the queue. -/
theorem pull {job : Job} {queue : List Job} (h : p.Manned settings others used)
    (hqueue : p.queue = job :: queue) (line : List ℕ) :
    Manned settings { p with queue, line } others used := by
  refine { h with staffed := h.staffed.pull hqueue line, queue_le := ?_, core := fun hopen ↦ ?_ }
  · have hle := h.queue_le
    rw [hqueue, List.length_cons] at hle
    exact Nat.le_of_succ_le hle
  · obtain hcore | ⟨-, hempty, -⟩ := h.core hopen
    · exact .inl hcore
    · exact absurd (hqueue.symm.trans hempty) (by simp)

/-- A worker goes; a core worker only when the pool is closed. -/
theorem dismiss {core : Bool} (h : p.Manned settings others used)
    (hothers : Reassigned others others' (.worker core) .outsider) (id : ℕ)
    (hdry : core = true → p.queue = [] ∧ p.isDry = true) :
    (p.dismiss id).Manned settings others' used := by
  refine { h with
    staffed := h.staffed.dismiss hothers id hdry
    workers_le := Nat.le_trans (Nat.sub_le _ _) h.workers_le
    core := fun hopen ↦ ?_ }
  have hcensus := Staffed.census_of_leave p (p.dismiss id) rfl hothers (.worker true) (by simp)
  cases core with
  | true =>
    have hclosed := (Bool.and_eq_true_iff.mp (hdry rfl).2).1
    exact absurd (hclosed.symm.trans hopen) (by simp)
  | false =>
    rw [if_neg (by simp), Nat.add_zero] at hcensus
    rw [hcensus]
    rcases h.core hopen with hcore | ⟨hnone, hrest⟩
    · exact .inl hcore
    · exact .inr ⟨by rw [Pool.dismiss, hnone], hrest⟩

/-- A caller has run its job. -/
theorem giveBack (h : p.Manned settings others used)
    (hothers : Reassigned others others' .lending .outsider) :
    p.giveBack.Manned settings others' used := by
  refine { h with staffed := h.staffed.giveBack hothers, core := fun hopen ↦ ?_ }
  have hcensus := Staffed.census_of_leave p p.giveBack rfl hothers (.worker true) (by simp)
  rw [if_neg (by simp), Nat.add_zero] at hcensus
  rw [hcensus]
  exact h.core hopen

/-- The tasks that were started begin. -/
theorem takeFresh (h : p.Manned settings others used)
    (hothers : ∀ r, others' r = others r + p.fresh.countP fun t ↦ t.role = r) :
    p.takeFresh.2.Manned settings others' used := by
  refine { h with staffed := h.staffed.takeFresh hothers, core := fun hopen ↦ ?_ }
  have hcensus : p.takeFresh.2.census others' (.worker true) = p.census others (.worker true) := by
    rw [census, census, hothers, Nat.add_comm (others _)]
    exact Nat.zero_add _
  rw [hcensus]
  exact h.core hopen

/-- Outsiders do not count. -/
theorem congr (h : p.Manned settings others used)
    (hothers : ∀ r, r ≠ .outsider → others' r = others r) : p.Manned settings others' used := by
  refine { h with staffed := h.staffed.congr hothers, core := fun hopen ↦ ?_ }
  rw [census, hothers _ (by simp)]
  exact h.core hopen

end Manned

end Courier.Pool

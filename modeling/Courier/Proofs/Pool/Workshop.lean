import Courier.Clock
import Courier.Proofs.Pool.Parties
import Mathlib.Logic.Relation

/-!
# A bounded pool at work

`Workshop` is a pool with all parties that ever came to it: callers, its own tasks, and those who
shut it down. In one move anyone comes, the tasks that the pool has started begin, or a party takes
its turn, whatever the clock says and whatever the job that it runs does (`Workshop.Move`). A job
that submits another one is run by a party that takes no turn until that caller has its answer, so
such jobs are among those that may do as they like.

`Workshop.Kept` is the invariant: the pool keeps to its settings, every job is where its notes say,
and callers have the answers that were noted. `Workshop.jobs_in_order` is what follows from it: the
bounds on workers and queue, which answer a caller gets and when, and that no job is lost, started
twice, or started out of its order.
-/

set_option autoImplicit false
set_option relaxedAutoImplicit false

namespace Courier

/-- A pool in use. -/
structure Workshop where
  pool : Pool ℕ
  /-- The events reported so far, the latest first. -/
  events : List Event := []
  /-- Those who came stay in their places, also when they are gone. -/
  parties : List Party := []
  /-- What happened to jobs so far, the latest first. -/
  log : JobLog := []

namespace Workshop

/-- All parties, those among them that have not begun yet first. -/
def everyone (s : Workshop) : List Party := s.pool.fresh.map .member ++ s.parties

/-- The number of workers, either core or others. -/
def staff (s : Workshop) (core : Bool) : ℕ := s.everyone.countP fun a ↦ a.role = .worker core

/-- The jobs with which the workers who were hired for them have not started yet. -/
def waiting (s : Workshop) : List ℕ := s.everyone.flatMap Party.first

/-- The jobs that are being run. -/
def running (s : Workshop) : List ℕ := s.everyone.flatMap Party.running

/-- The number of parties of a role that have begun. -/
def roles (s : Workshop) (r : Role) : ℕ := s.parties.countP fun a ↦ a.role = r

/-- Someone comes. -/
def come (s : Workshop) (a : Party) : Workshop := { s with parties := s.parties ++ [a] }

/-- The tasks that the pool has started begin. -/
def begun (s : Workshop) : Workshop :=
  { s with
    pool := s.pool.takeFresh.2
    parties := s.parties ++ s.pool.takeFresh.1.map .member }

/-- A party has become another. -/
def turned (s : Workshop) (place : ℕ) (a b : Party) (plant : Plant (List Event) ℕ) : Workshop :=
  ⟨plant.pool, plant.site, s.parties.set place b, a.notes b ++ s.log⟩

/-- One move. -/
inductive Move (s : Workshop) : Workshop → Prop where
  /-- Someone calls with a job that has the number of the caller's place. -/
  | call : Move s (s.come (.caller (.begun s.parties.length)))
  /-- Someone shuts the pool down. -/
  | close : Move s (s.come (.closer .begun))
  | begin : Move s s.begun
  | turn {place : ℕ} {a b : Party} {plant : Plant (List Event) ℕ} (m : Moment)
      (result : Option (Except Crash Unit)) (hparty : s.parties[place]? = some a)
      (hturn : a.turn m result ⟨s.events, s.pool⟩ = some (b, plant)) :
      Move s (s.turned place a b plant)

/-- Any number of moves. -/
abbrev Reaches : Workshop → Workshop → Prop := Relation.ReflTransGen Move

/-- What a caller becomes who submits a job now, and the events then. -/
def verdict (s : Workshop) (settings : PoolSettings) (job : ℕ) : Party × List Event :=
  if s.pool.closed then (.answered (.error .shutDown), s.events)
  else if s.pool.queue.length < settings.queueCapacity then (.answered (.ok .queued), s.events)
  else if s.pool.workers < settings.maxWorkers then (.answered (.ok .spawned), s.events)
  else (.caller (.running job), .callerRuns :: s.events)

/-- The pool keeps to its settings, the jobs are where the notes say, and so are the answers. -/
structure Kept (settings : PoolSettings) (s : Workshop) : Prop where
  manned : s.pool.Manned settings s.roles (s.log.accepted ≠ [])
  patient : ∀ a ∈ s.parties, a.Patient
  queued_eq : s.log.of [.queued] = s.pool.queue.reverse ++ s.log.of [.pulled]
  hired_perm : (s.log.of [.hired]).Perm (s.waiting ++ s.log.of [.begun])
  started_perm : s.log.started.Perm (s.running ++ s.log.of [.ended])
  filed : ∀ (place : ℕ) (a : Party), s.parties[place]? = some a → a.Filed s.log place
  distinct : s.log.submitted.Nodup
  places : ∀ job ∈ s.log.submitted, job < s.parties.length
  lent_eq : s.events.count .callerRuns = (s.log.of [.lent]).length
  closed_iff : s.pool.closed = true ↔ ∃ a ∈ s.parties, a.hasClosed = true
  drained : .shut true ∈ s.parties → s.pool.isDrained = true

variable {settings : PoolSettings} {s s' : Workshop}

/-! ### Counting parties -/

theorem countP_everyone (s : Workshop) (r : Role) :
    (s.everyone.countP fun a ↦ a.role = r) = s.pool.census s.roles r := by
  rw [everyone, List.countP_append, List.countP_map]
  rfl

theorem flatMap_everyone (s : Workshop) (f : Party → List ℕ) :
    s.everyone.flatMap f =
      (s.pool.fresh.flatMap fun t ↦ f (.member t)) ++ s.parties.flatMap f := by
  rw [everyone, List.flatMap_append, List.flatMap_map]

theorem reassigned_turned {place : ℕ} {a b : Party} (hparty : s.parties[place]? = some a)
    (plant : Plant (List Event) ℕ) :
    Reassigned s.roles (s.turned place a b plant).roles a.role b.role := by
  intro r
  have hcount := countP_set hparty (fun a ↦ a.role = r) b
  simpa only [roles, turned, decide_eq_true_eq, eq_comm (a := r)] using hcount

/-- What comes in and goes out at one party comes in and goes out on the whole. -/
theorem perm_turned {parties : List Party} {place : ℕ} {a b : Party} {f : Party → List ℕ}
    {fresh fresh' come came go gone : List ℕ} (hparty : parties[place]? = some a)
    (hflow : (come ++ (fresh ++ f a)).Perm (fresh' ++ f b ++ go))
    (hbefore : came.Perm (fresh ++ parties.flatMap f ++ gone)) :
    (come ++ came).Perm (fresh' ++ (parties.set place b).flatMap f ++ (go ++ gone)) := by
  refine perm_of_countP fun p ↦ ?_
  have hset := countP_flatMap_set hparty f p b
  have hflow := hflow.countP_eq p
  have hbefore := hbefore.countP_eq p
  simp only [List.countP_append] at hflow hbefore ⊢
  omega

/-! ### Every move keeps the invariant -/

theorem kept_start {p : Pool ℕ} (hnew : Pool.new settings = .ok p) :
    Kept settings { pool := p } := by
  have hmanned : p.Manned settings (fun _ ↦ 0) (JobLog.accepted [] ≠ []) :=
    Pool.manned_new hnew (by simp)
  unfold Pool.new at hnew
  split_ifs at hnew
  obtain rfl := Except.ok.inj hnew
  exact
    { manned := hmanned
      patient := by simp
      queued_eq := rfl
      hired_perm := .refl _
      started_perm := .refl _
      filed := by simp
      distinct := List.nodup_nil
      places := by simp
      lent_eq := rfl
      closed_iff := by simp
      drained := by simp }

/-- Someone comes who has nothing to do with the jobs that are there. -/
theorem Kept.come (h : s.Kept settings) {a : Party} (hrole : a.role = .outsider)
    (hpatient : a.Patient) (hjobs : a.first = [] ∧ a.running = [])
    (hfiled : a.Filed s.log s.parties.length) (hclosed : a.hasClosed = false) :
    (s.come a).Kept settings := by
  have hflat : ∀ f : Party → List ℕ, f a = [] →
      (s.come a).everyone.flatMap f = s.everyone.flatMap f := by
    intro f hf
    rw [flatMap_everyone, flatMap_everyone, Workshop.come, List.flatMap_append,
      List.flatMap_singleton, hf, List.append_nil]
  have hmem : ∀ b ∈ (s.come a).parties, b ∈ s.parties ∨ b = a := by
    intro b hb
    rwa [Workshop.come, List.mem_append, List.mem_singleton] at hb
  refine
    { h with
      manned := h.manned.congr fun r hr ↦ ?_
      patient := fun b hb ↦ ?_
      hired_perm := ?_
      started_perm := ?_
      filed := fun place b hb ↦ ?_
      places := fun job hjob ↦ ?_
      closed_iff := ?_
      drained := fun hshut ↦ ?_ }
  · rw [roles, Workshop.come, List.countP_append, List.countP_singleton]
    simp [roles, hrole, hr.symm]
  · rcases hmem b hb with hb | rfl
    · exact h.patient b hb
    · exact hpatient
  · rw [waiting, hflat _ hjobs.1]
    exact h.hired_perm
  · rw [running, hflat _ hjobs.2]
    exact h.started_perm
  · rw [Workshop.come] at hb
    rcases Nat.lt_or_ge place s.parties.length with hlt | hge
    · rw [List.getElem?_append_left hlt] at hb
      exact h.filed place b hb
    · rw [List.getElem?_append_right hge, List.getElem?_singleton] at hb
      split_ifs at hb with hplace
      obtain rfl := Option.some.inj hb
      rwa [show place = s.parties.length by omega]
  · rw [Workshop.come, List.length_append]
    exact Nat.lt_add_right _ (h.places job hjob)
  · refine h.closed_iff.trans
      ⟨Exists.imp fun b hb ↦ ⟨List.mem_append_left _ hb.1, hb.2⟩, ?_⟩
    rintro ⟨b, hb, hhas⟩
    rcases hmem b hb with hb | rfl
    · exact ⟨b, hb, hhas⟩
    · exact absurd (hclosed.symm.trans hhas) (by simp)
  · rcases hmem _ hshut with hshut | rfl
    · exact h.drained hshut
    · simp at hclosed

theorem Kept.begun (h : s.Kept settings) : s.begun.Kept settings := by
  have hflat : ∀ f : Party → List ℕ,
      (s.begun.everyone.flatMap f).Perm (s.everyone.flatMap f) := by
    intro f
    refine List.Perm.flatMap_right f ?_
    simpa [everyone, Workshop.begun, Pool.takeFresh] using List.perm_append_comm
  have hmem : ∀ b ∈ s.begun.parties, b ∈ s.parties ∨ ∃ t ∈ s.pool.fresh, .member t = b := by
    intro b hb
    rwa [Workshop.begun, List.mem_append, List.mem_map] at hb
  refine
    { h with
      manned := h.manned.takeFresh fun r ↦ ?_
      patient := fun b hb ↦ ?_
      hired_perm := h.hired_perm.trans ((hflat _).symm.append_right _)
      started_perm := h.started_perm.trans ((hflat _).symm.append_right _)
      filed := fun place b hb ↦ ?_
      places := fun job hjob ↦ ?_
      closed_iff := ?_
      drained := fun hshut ↦ ?_ }
  · rw [roles, Workshop.begun, List.countP_append, List.countP_map]
    rfl
  · rcases hmem b hb with hb | ⟨t, ht, rfl⟩
    · exact h.patient b hb
    · exact h.manned.staffed.patient t ht
  · rw [Workshop.begun] at hb
    rcases Nat.lt_or_ge place s.parties.length with hlt | hge
    · rw [List.getElem?_append_left hlt] at hb
      exact h.filed place b hb
    · rw [List.getElem?_append_right hge] at hb
      obtain ⟨t, -, rfl⟩ := List.mem_map.mp (List.mem_of_getElem? hb)
      trivial
  · rw [Workshop.begun, List.length_append]
    exact Nat.lt_add_right _ (h.places job hjob)
  · refine h.closed_iff.trans
      ⟨Exists.imp fun b hb ↦ ⟨List.mem_append_left _ hb.1, hb.2⟩, ?_⟩
    rintro ⟨b, hb, hhas⟩
    rcases hmem b hb with hb | ⟨t, ht, rfl⟩
    · exact ⟨b, hb, hhas⟩
    · simp at hhas
  · rcases hmem _ hshut with hshut | ⟨t, -, ht⟩
    · exact h.drained hshut
    · cases ht

/-- No job runs by itself. -/
theorem Kept.attached (h : s.Kept settings) : ∀ a ∈ s.parties, a.role ≠ .detached := by
  intro a ha hrole
  have hnone := h.manned.staffed.detached
  rw [h.manned.detached_eq, Pool.census] at hnone
  have hzero : s.roles .detached = 0 := by omega
  exact List.countP_eq_zero.mp hzero a ha (by simpa using hrole)

theorem Kept.turned {place : ℕ} {a b : Party} {plant : Plant (List Event) ℕ} {m : Moment}
    {result : Option (Except Crash Unit)} (h : s.Kept settings)
    (hvalid : settings.invalid? = none) (hmode : settings.mode = .bounded)
    (hparty : s.parties[place]? = some a)
    (hturn : a.turn m result ⟨s.events, s.pool⟩ = some (b, plant)) :
    (s.turned place a b plant).Kept settings := by
  have hmem : a ∈ s.parties := List.mem_of_getElem? hparty
  have hturned := Party.turned_of_turn (h.manned.settings_eq ▸ hmode) (h.attached a hmem) hturn
  obtain ⟨hlt, -⟩ := List.getElem?_eq_some_iff.mp hparty
  have hflow := hturned.flow
  obtain ⟨hfiled, hsubmitted⟩ := hturned.filed (h.filed place a hparty)
  have hof : ∀ kinds, (s.turned place a b plant).log.of kinds =
      (a.notes b).of kinds ++ s.log.of kinds := fun kinds ↦ JobLog.of_append ..
  have hnames : (s.turned place a b plant).log.submitted =
      (a.notes b).submitted ++ s.log.submitted := hof _
  have hparties : ∀ c ∈ (s.turned place a b plant).parties, c ∈ s.parties ∨ c = b :=
    fun c hc ↦ List.mem_or_eq_of_mem_set hc
  refine
    { manned := hturned.manned hvalid hmode (h.patient a hmem) (reassigned_turned hparty plant)
        (fun hnone hused ↦ ?_) h.manned
      patient := fun c hc ↦ ?_
      queued_eq := ?_
      hired_perm := ?_
      started_perm := ?_
      filed := fun other c hc ↦ ?_
      distinct := ?_
      places := fun job hjob ↦ ?_
      lent_eq := ?_
      closed_iff := ?_
      drained := fun hshut ↦ ?_ }
  · have haccepted := hof [.queued, .hired, .lent]
    rw [show (a.notes b).of _ = [] from hnone, List.nil_append] at haccepted
    rwa [JobLog.accepted, haccepted] at hused
  · rcases hparties c hc with hc | rfl
    · exact h.patient c hc
    · exact hturned.patient (h.patient a hmem)
  · rw [hof, hof, h.queued_eq, ← List.append_assoc, hflow.queue, List.append_assoc]
    rfl
  · rw [hof, hof, waiting, flatMap_everyone]
    have hbefore := h.hired_perm
    rw [waiting, flatMap_everyone] at hbefore
    exact perm_turned hparty hflow.first hbefore
  · rw [JobLog.started, hof, hof, running, flatMap_everyone]
    have hbefore := h.started_perm
    rw [running, flatMap_everyone] at hbefore
    exact perm_turned hparty hflow.running hbefore
  · by_cases hsame : place = other
    · subst hsame
      rw [Workshop.turned, List.getElem?_set_self hlt] at hc
      obtain rfl := Option.some.inj hc
      exact hfiled
    · rw [Workshop.turned, List.getElem?_set_ne hsame] at hc
      refine (h.filed other c hc).append fun hmem ↦ ?_
      rcases hsubmitted with hnone | ⟨hone, -⟩
      · rw [hnone] at hmem
        cases hmem
      · rw [hone, List.mem_singleton] at hmem
        exact hsame hmem.symm
  · rw [hnames]
    rcases hsubmitted with hnone | ⟨hone, hnew⟩
    · rw [hnone]
      exact h.distinct
    · rw [hone]
      exact List.nodup_cons.mpr ⟨hnew, h.distinct⟩
  · rw [hnames] at hjob
    rw [Workshop.turned, List.length_set]
    rcases List.mem_append.mp hjob with hjob | hjob
    · rcases hsubmitted with hnone | ⟨hone, -⟩
      · rw [hnone] at hjob
        cases hjob
      · rw [hone, List.mem_singleton] at hjob
        exact hjob ▸ hlt
    · exact h.places job hjob
  · rw [hof, List.length_append, ← h.lent_eq, Nat.add_comm]
    exact hturned.events
  · obtain ⟨hkeeps, hiff⟩ := hturned.closed
    refine hiff.trans ⟨fun hclosed ↦ ?_, ?_⟩
    · rcases hclosed with hclosed | ⟨-, hb⟩
      · obtain ⟨c, hc, hhas⟩ := h.closed_iff.mp hclosed
        obtain ⟨other, hother⟩ := List.mem_iff_getElem?.mp hc
        by_cases hsame : place = other
        · subst hsame
          obtain rfl := Option.some.inj (hparty.symm.trans hother)
          exact ⟨b, List.mem_set hlt b, hkeeps hhas⟩
        · exact ⟨c, List.mem_of_getElem? ((List.getElem?_set_ne hsame).trans hother), hhas⟩
      · exact ⟨b, List.mem_set hlt b, hb⟩
    · rintro ⟨c, hc, hhas⟩
      rcases hparties c hc with hc | rfl
      · exact .inl (h.closed_iff.mpr ⟨c, hc, hhas⟩)
      · cases ha : a.hasClosed with
        | true => exact .inl (h.closed_iff.mpr ⟨a, hmem, ha⟩)
        | false => exact .inr ⟨rfl, hhas⟩
  · rcases hparties _ hshut with hshut | rfl
    · exact hturned.still (h.closed_iff.mpr ⟨_, hshut, rfl⟩) (h.drained hshut)
    · exact hturned.drained

theorem Kept.step (h : s.Kept settings) (hvalid : settings.invalid? = none)
    (hmode : settings.mode = .bounded) (hmove : Move s s') : s'.Kept settings := by
  cases hmove with
  | call =>
    refine h.come rfl trivial ⟨rfl, rfl⟩ ⟨rfl, fun hmem ↦ ?_⟩ rfl
    exact Nat.lt_irrefl _ (h.places _ hmem)
  | close => exact h.come rfl trivial ⟨rfl, rfl⟩ trivial rfl
  | begin => exact h.begun
  | turn m result hparty hturn => exact h.turned hvalid hmode hparty hturn

theorem Kept.reaches (h : s.Kept settings) (hvalid : settings.invalid? = none)
    (hmode : settings.mode = .bounded) (hreaches : Reaches s s') : s'.Kept settings := by
  induction hreaches with
  | refl => exact h
  | tail _ hmove ih => exact ih.step hvalid hmode hmove

/-! ### What follows -/

/-- The pool decides on a job in the order of the verdict. -/
theorem Kept.verdict (h : s.Kept settings) (hvalid : settings.invalid? = none)
    (hmode : settings.mode = .bounded) (job : ℕ) (m : Moment)
    (result : Option (Except Crash Unit)) :
    ∃ plant, (Party.caller (.begun job)).turn m result ⟨s.events, s.pool⟩ =
      some ((s.verdict settings job).1, plant) ∧ plant.site = (s.verdict settings job).2 := by
  obtain ⟨-, -, hcapacity⟩ := Pool.bounds_of_valid hvalid hmode
  unfold Workshop.verdict
  cases hclosed : s.pool.closed with
  | true =>
    have hsubmit := Pool.submit_of_closed hclosed job
    simp [Party.turn, Submission.step, hsubmit]
  | false =>
    have hsubmit := Pool.submit_of_open hclosed (h.manned.settings_eq ▸ hmode) job
    rw [h.manned.capacity_eq hcapacity, h.manned.settings_eq] at hsubmit
    by_cases hroom : s.pool.queue.length < settings.queueCapacity
    · rw [if_pos hroom] at hsubmit
      simp [Party.turn, Submission.step, hsubmit, hroom]
    · -- a full queue is not empty, so the core workers are there already
      have hqueue : s.pool.queue ≠ [] := by
        intro hempty
        rw [hempty] at hroom
        exact hroom hcapacity
      rw [if_neg hroom, h.manned.workers_staff hclosed hqueue] at hsubmit
      split_ifs at hsubmit with hworkers
      · simp [Party.turn, Submission.step, hsubmit, hroom, hworkers]
      · simp [Party.turn, Submission.step, hsubmit, hroom, hworkers]

/-- Jobs that were accepted wait in the queue or for the worker hired for them, or were started. -/
theorem Kept.accepted_perm (h : s.Kept settings) :
    s.log.accepted.Perm (s.pool.queue ++ s.waiting ++ s.log.started) := by
  refine perm_of_countP fun p ↦ ?_
  have haccepted := (s.log.of_kinds_cons (by decide : .queued ∉ [.hired, .lent])).countP_eq p
  have htaken := (s.log.of_kinds_cons (by decide : .hired ∉ [.lent])).countP_eq p
  have hstarted := (s.log.of_kinds_cons (by decide : .lent ∉ [.pulled, .begun])).countP_eq p
  have hbegun := (s.log.of_kinds_cons (by decide : .pulled ∉ [.begun])).countP_eq p
  have hhired := h.hired_perm.countP_eq p
  simp only [JobLog.accepted, JobLog.started, List.countP_append, h.queued_eq,
    List.countP_reverse] at *
  omega

/-- No job is submitted twice, and those that were refused are not among those accepted. -/
theorem Kept.accepted_nodup (h : s.Kept settings) :
    s.log.accepted.Nodup ∧ ∀ job ∈ s.log.of [.refused], job ∉ s.log.accepted := by
  have hperm := s.log.of_kinds_cons (by decide : .refused ∉ [.queued, .hired, .lent])
  obtain ⟨-, haccepted, hapart⟩ := List.nodup_append.mp (hperm.nodup_iff.mp h.distinct)
  exact ⟨haccepted, fun job hrefused hmem ↦ hapart job hrefused job hmem rfl⟩

/-- While the pool is drained no job waits and none is run. -/
theorem Kept.idle (h : s.Kept settings) (hdrained : s.pool.isDrained = true) :
    s.pool.queue = [] ∧ s.waiting = [] ∧ s.running = [] := by
  obtain ⟨hqueue, hfresh, hroles⟩ := h.manned.staffed.idle hdrained
  have hidle : ∀ a ∈ s.everyone, a.first = [] ∧ a.running = [] := by
    intro a ha
    rw [everyone, hfresh, List.map_nil, List.nil_append] at ha
    have houtsider : a.role = .outsider := by
      by_contra hrole
      exact List.countP_eq_zero.mp (hroles a.role hrole) a ha (decide_eq_true rfl)
    match a, houtsider with
    | .caller (.begun job), _ => exact ⟨rfl, rfl⟩
    | .answered answer, _ => exact ⟨rfl, rfl⟩
    | .gone, _ => exact ⟨rfl, rfl⟩
    | .closer t, _ => exact ⟨rfl, rfl⟩
    | .shut drained, _ => exact ⟨rfl, rfl⟩
  exact ⟨hqueue, List.flatMap_eq_nil_iff.mpr fun a ha ↦ (hidle a ha).1,
    List.flatMap_eq_nil_iff.mpr fun a ha ↦ (hidle a ha).2⟩

/-- However many callers come to a bounded pool, and whatever their jobs do, at every moment there
are no more workers and no more jobs in the queue than the settings allow, and from the first job
accepted until the pool is closed there are exactly the core workers among them. A caller gets the
answer of the verdict: refused once the pool is closed, queued while there is room, a new worker if
the queue is full and more workers are allowed, and otherwise the job itself, of which one event is
reported. What was noted of a job agrees with the answer of its caller.

No job is started twice, none is started that was refused, and those that were queued are started in
the order in which they were submitted. Every job that was accepted is in the queue, with a worker
hired for it, being run or has ended; they have all ended, and the workers are gone, when a shutdown
has ended with true. -/
theorem jobs_in_order {p : Pool ℕ} (hvalid : settings.invalid? = none)
    (hmode : settings.mode = .bounded) (hnew : Pool.new settings = .ok p)
    (hreaches : Reaches { pool := p } s) :
    (s.pool.workers = s.staff true + s.staff false ∧ s.pool.workers ≤ settings.maxWorkers ∧
      s.pool.queue.length ≤ settings.queueCapacity ∧
      (s.pool.closed = false → s.log.accepted ≠ [] → s.staff true = settings.coreWorkers)) ∧
    ((s.pool.closed = true ↔ ∃ a ∈ s.parties, a.hasClosed = true) ∧
      (∀ job m result, ∃ plant, (Party.caller (.begun job)).turn m result ⟨s.events, s.pool⟩ =
        some ((s.verdict settings job).1, plant) ∧ plant.site = (s.verdict settings job).2) ∧
      (s.log.of [.lent]).Nodup ∧ s.events.count .callerRuns = (s.log.of [.lent]).length ∧
      ∀ (place : ℕ) (a : Party), s.parties[place]? = some a → a.Filed s.log place) ∧
    (s.log.started.Nodup ∧
      (∀ (place : ℕ) (reason : PoolError),
        s.parties[place]? = some (.answered (.error reason)) → place ∉ s.log.started) ∧
      s.log.of [.queued] = s.pool.queue.reverse ++ s.log.of [.pulled]) ∧
    s.log.accepted.Perm (s.pool.queue ++ s.waiting ++ (s.running ++ s.log.of [.ended])) ∧
    (.shut true ∈ s.parties → s.pool.workers = 0 ∧ s.log.accepted.Perm (s.log.of [.ended])) := by
  have h := (kept_start hnew).reaches hvalid hmode hreaches
  obtain ⟨haccepted, hapart⟩ := h.accepted_nodup
  have hperm := h.accepted_perm
  have hstarted := (List.nodup_append.mp (hperm.nodup_iff.mp haccepted)).2.1
  have hstaff : ∀ core, s.staff core = s.pool.census s.roles (.worker core) :=
    fun core ↦ s.countP_everyone _
  refine ⟨⟨?_, h.manned.workers_le, h.manned.queue_le, fun hopen hused ↦ ?_⟩,
    ⟨h.closed_iff, h.verdict hvalid hmode, ?_, h.lent_eq, h.filed⟩,
    ⟨hstarted, fun place reason hanswer hmem ↦ ?_, h.queued_eq⟩,
    hperm.trans (h.started_perm.append_left _), fun hshut ↦ ?_⟩
  · rw [hstaff, hstaff]
    exact h.manned.staffed.workers
  · rcases h.manned.core hopen with hcore | ⟨-, -, hunused⟩
    · exact (hstaff true).trans hcore
    · exact absurd hused hunused
  · have hlent := s.log.of_kinds_cons (by decide : .lent ∉ [.pulled, .begun])
    exact (List.nodup_append.mp (hlent.nodup_iff.mp hstarted)).1
  · have hrefused := (h.filed place _ hanswer).2
    exact hapart place hrefused (hperm.mem_iff.mpr (List.mem_append_right _ hmem))
  · have hdrained := h.drained hshut
    obtain ⟨hqueue, hwaiting, hrunning⟩ := h.idle hdrained
    have hended := h.started_perm
    rw [hqueue, hwaiting] at hperm
    rw [hrunning] at hended
    exact ⟨(Pool.isDrained_iff.mp hdrained).1, hperm.trans hended⟩

/-! ### A run -/

/-- What happens next at a pool. -/
inductive Cue where
  | call
  | close
  | begin
  | turn (place now : ℕ) (result : Option (Except Crash Unit))

/-- Plays some cues one after the other; none if a party has no turn. -/
def play : List Cue → Workshop → Option Workshop
  | [], s => some s
  | .call :: script, s => play script (s.come (.caller (.begun s.parties.length)))
  | .close :: script, s => play script (s.come (.closer .begun))
  | .begin :: script, s => play script s.begun
  | .turn place now result :: script, s =>
    match s.parties[place]? with
    | none => none
    | some a =>
      match a.turn { now : Clock }.moment result ⟨s.events, s.pool⟩ with
      | none => none
      | some (b, plant) => play script (s.turned place a b plant)

theorem reaches_of_play {script : List Cue} (h : play script s = some s') : Reaches s s' := by
  induction script generalizing s with
  | nil =>
    obtain rfl := Option.some.inj h
    exact .refl
  | cons cue rest ih =>
    cases cue with
    | call => exact .head .call (ih h)
    | close => exact .head .close (ih h)
    | begin => exact .head .begin (ih h)
    | turn place now result =>
      rw [play] at h
      split at h
      · cases h
      · rename_i a hparty
        split at h
        · cases h
        · rename_i b plant hturn
          exact .head (.turn _ result hparty hturn) (ih h)

/-- One core worker, one more when it is needed, and room for one job. -/
def small : PoolSettings := { coreWorkers := 1, maxWorkers := 2, queueCapacity := 1 }

/-- The core worker is busy with the first job, the second one is queued, the third one gets a
worker of its own and crashes, and the fourth one is left to its caller; then the pool is shut down,
and the fifth job is refused. Callers have the places 0, 2, 3, 5 and 7. -/
theorem jobs_in_order_small :
    small.invalid? = none ∧ ∃ p s, Pool.new small = .ok p ∧ Reaches { pool := p } s ∧
      s.log.accepted = [5, 3, 2, 0] ∧ s.log.started = [2, 3, 5, 0] ∧ s.log.started.Nodup ∧
      s.events.count .callerRuns = (s.log.of [.lent]).length ∧
      s.log.accepted.Perm (s.log.of [.ended]) := by
  have hvalid : small.invalid? = none := by decide
  have hrun : ((Pool.new small).toOption.bind fun p ↦
      (play [.call, .turn 0 0 none, .begin, .turn 1 0 none, .turn 1 0 none, .call, .turn 2 0 none,
        .call, .turn 3 0 none, .begin, .call, .turn 5 0 none, .turn 4 0 none,
        .turn 4 0 (some (.error .silent)), .turn 5 0 (some (.ok ())), .close, .turn 6 0 none,
        .call, .turn 7 0 none, .turn 1 0 (some (.ok ())), .turn 4 0 none,
        .turn 4 0 (some (.ok ())), .turn 1 0 none, .turn 4 0 none, .turn 6 0 none]
        { pool := p }).map fun s ↦ (s.log.accepted, s.log.started, s.parties[6]?)) =
      some ([5, 3, 2, 0], [2, 3, 5, 0], some (.shut true)) := by rfl
  obtain ⟨p, hp, hrun⟩ := Option.bind_eq_some_iff.mp hrun
  obtain ⟨s, hs, heq⟩ := Option.map_eq_some_iff.mp hrun
  obtain ⟨haccepted, hstarted, hcloser⟩ : s.log.accepted = _ ∧ s.log.started = _ ∧ _ := by
    simpa only [Prod.mk.injEq] using heq
  have hshut : .shut true ∈ s.parties := List.mem_of_getElem? hcloser
  have hnew : Pool.new small = .ok p := by
    cases h : (Pool.new small : Except Crash (Pool ℕ)) with
    | error reason => simp [h, Except.toOption] at hp
    | ok made => rw [h] at hp; exact congrArg _ (Option.some.inj hp)
  have hreaches := reaches_of_play hs
  obtain ⟨-, ⟨-, -, -, hevents, -⟩, ⟨hnodup, -⟩, -, hended⟩ :=
    jobs_in_order hvalid rfl hnew hreaches
  exact ⟨hvalid, p, s, hnew, hreaches, haccepted, hstarted, hnodup, hevents, (hended hshut).2⟩

end Workshop

end Courier

import Courier.Crash
import Courier.Moment
import Courier.Pool.Settings
import Courier.Turn

/-!
# Worker pools

A pool runs jobs. `submit` puts a job into the queue, or starts a worker for it, or leaves it to the
caller. Workers without work stand in line, and the first in line takes the next job of the queue.
Workers beyond the core ones leave the line when their time without work is up. After `close` no job is
accepted; the workers finish what is queued and go. A caller who runs a job itself keeps the queue
open until it is done.

The workers are tasks of their own: `Worker.step` makes one move of a worker on a pool and on what its
jobs work on.
-/

set_option autoImplicit false
set_option relaxedAutoImplicit false

namespace Courier

/-- Why a pool turns a job down. -/
inductive PoolError where
  | shutDown
  /-- There is nothing to run workers on. -/
  | noRuntime
  deriving DecidableEq, Repr

/-- The wording. -/
def PoolError.message : PoolError → String
  | shutDown => "execution pool is shut down"
  | noRuntime =>
    "no tokio runtime available: there is no reactor running, " ++
      "must be called from the context of a Tokio 1.x runtime"

/-- What a worker is doing. -/
inductive Worker.Phase (Job : Type) where
  /-- Not yet at work; it may have been given a job. -/
  | starting (first : Option Job)
  | working (job : Job)
  /-- In line, at most until a deadline. -/
  | idle (deadline : Option Nat)

/-- A worker. -/
structure Worker (Job : Type) where
  id : Nat
  /-- It stays as long as the pool is open. -/
  core : Bool
  phase : Worker.Phase Job

/-- A task of a pool: a worker, or a job that runs by itself. -/
inductive PoolTask (Job : Type) where
  | worker (worker : Worker Job)
  | detached (job : Job)

/-- A pool. -/
structure Pool (Job : Type) where
  settings : PoolSettings
  closed : Bool := false
  /-- The jobs that wait, in the order in which they came. -/
  queue : List Job := []
  /-- The number of workers. -/
  workers : Nat := 0
  /-- The workers without work, in the order in which they ran out of it. -/
  line : List Nat := []
  /-- The number of workers started so far. -/
  started : Nat := 0
  /-- The number of jobs that run by themselves. -/
  detached : Nat := 0
  /-- The number of jobs that callers run. -/
  lent : Nat := 0
  /-- The tasks that were started and have not run yet. -/
  fresh : List (PoolTask Job) := []

/-- What became of a job that was submitted. -/
inductive Submitted (Job : Type) where
  | refused (reason : PoolError)
  | queued
  | spawned
  /-- The caller has to run the job. -/
  | lent (job : Job)

namespace Pool

variable {Job : Type}

/-- A pool without workers. -/
def new (settings : PoolSettings) : Except Crash (Pool Job) :=
  if Crash.maxSlots < max settings.queueCapacity 1 then .error .queueTooLong else .ok { settings }

/-- The most jobs that wait. -/
def capacity (p : Pool Job) : Nat := max p.settings.queueCapacity 1

/-- Starts a worker. -/
def hire (p : Pool Job) (first : Option Job) (core : Bool) : Pool Job :=
  { p with
    workers := p.workers + 1
    started := p.started + 1
    fresh := p.fresh ++ [.worker ⟨p.started, core, .starting first⟩] }

/-- Starts workers until there are as many as core workers. -/
def staff (p : Pool Job) : Pool Job :=
  (List.range (p.settings.coreWorkers - p.workers)).foldl (fun p _ => p.hire none true) p

/-- Hands a job to the pool. -/
def submit (p : Pool Job) (job : Job) : Submitted Job × Pool Job :=
  if p.closed then (.refused .shutDown, p)
  else
    match p.settings.mode with
    | .unbounded =>
      (.spawned, { p with detached := p.detached + 1, fresh := p.fresh ++ [.detached job] })
    | .bounded =>
      let p := p.staff
      if p.queue.length < p.capacity then (.queued, { p with queue := p.queue ++ [job] })
      else if p.workers < p.settings.maxWorkers then (.spawned, p.hire (some job) false)
      else (.lent job, { p with lent := p.lent + 1 })

/-- A caller has run its job. -/
def giveBack (p : Pool Job) : Pool Job := { p with lent := p.lent - 1 }

/-- Accepts no more jobs. -/
def close (p : Pool Job) : Pool Job := { p with closed := true }

/-- Nothing will be put into the queue any more. -/
def isDry (p : Pool Job) : Bool := p.closed && p.lent = 0

/-- No worker is left and no job runs by itself. -/
def isDrained (p : Pool Job) : Bool := p.workers = 0 && p.detached = 0

/-- A worker goes. -/
def dismiss (p : Pool Job) (id : Nat) : Pool Job :=
  { p with workers := p.workers - 1, line := p.line.erase id }

/-- The tasks that were started, and the pool without them. -/
def takeFresh (p : Pool Job) : List (PoolTask Job) × Pool Job := (p.fresh, { p with fresh := [] })

/-- The pool in one line. -/
def summary (p : Pool Job) : String :=
  "ExecutionPool \x7b mode: " ++ p.settings.mode.label ++ ", workers: " ++ toString p.workers ++
    ", closed: " ++ toString p.closed ++ ", .. \x7d"

end Pool

/-- A pool and what its jobs work on. -/
structure Plant (Site Job : Type) where
  site : Site
  pool : Pool Job

/-- One move of a job; none if the job must wait. -/
abbrev JobStep (Site Job Result : Type) := Job → Site → Option (Turn Job Result × Site)

namespace Worker

variable {Site Job Result : Type}

/-- The worker turns to a job. -/
def take (w : Worker Job) (job : Job) : Worker Job := { w with phase := .working job }

/-- The worker gets in line. -/
def lineUp (now : Moment) (w : Worker Job) (p : Pool Job) : Worker Job × Pool Job :=
  let deadline := if w.core then none else some (now.deadline p.settings.keepAlive)
  ({ w with phase := .idle deadline }, { p with line := p.line ++ [w.id] })

/-- Makes one move of a worker; none if the worker must wait. -/
def step (run : JobStep Site Job Result) (now : Moment) (w : Worker Job) (s : Plant Site Job) :
    Option (Turn (Worker Job) Unit × Plant Site Job) :=
  let lineUp (site : Site) : Turn (Worker Job) Unit × Plant Site Job :=
    let (w, pool) := lineUp now w s.pool
    (.going w, ⟨site, pool⟩)
  match w.phase with
  | .starting (some job) => some (.going (w.take job), s)
  | .starting none => some (lineUp s.site)
  | .working job =>
    match run job s.site with
    | none => none
    | some (.going job, site) => some (.going (w.take job), { s with site })
    | some (.done _, site) => some (lineUp site)
  | .idle deadline =>
    let overdue := deadline.any fun d => d ≤ now.now
    let leave := some (Turn.done (), { s with pool := s.pool.dismiss w.id })
    if s.pool.line.head? = some w.id then
      match s.pool.queue with
      | job :: queue =>
        some (.going (w.take job), { s with pool := { s.pool with queue, line := s.pool.line.tail } })
      | [] => if s.pool.isDry || overdue then leave else none
    else if overdue then leave
    else none

/-- The instants at which a waiting worker may move by itself, given those of its job. -/
def deadlines (jobDeadlines : Job → List Nat) (w : Worker Job) : List Nat :=
  match w.phase with
  | .starting _ => []
  | .working job => jobDeadlines job
  | .idle deadline => deadline.toList

end Worker

namespace PoolTask

variable {Site Job Result : Type}

/-- Makes one move of a task of the pool; none if the task must wait. -/
def step (run : JobStep Site Job Result) (now : Moment) (t : PoolTask Job) (s : Plant Site Job) :
    Option (Turn (PoolTask Job) Unit × Plant Site Job) :=
  match t with
  | .worker w =>
    match w.step run now s with
    | none => none
    | some (.going w, s) => some (.going (.worker w), s)
    | some (.done (), s) => some (.done (), s)
  | .detached job =>
    match run job s.site with
    | none => none
    | some (.going job, site) => some (.going (.detached job), { s with site })
    | some (.done _, site) =>
      some (.done (), ⟨site, { s.pool with detached := s.pool.detached - 1 }⟩)

/-- The instants at which a waiting task may move by itself, given those of its job. -/
def deadlines (jobDeadlines : Job → List Nat) : PoolTask Job → List Nat
  | .worker w => w.deadlines jobDeadlines
  | .detached job => jobDeadlines job

end PoolTask

end Courier

import Courier.Pool.Shutdown
import Courier.Pool.Submission
import Courier.Schedule

/-!
# Rehearsing a pool

The jobs are scripted: each writes down when it starts and when it ends, and in between ends at once,
sleeps, or blocks until it is released. A job may also crash, and then does not write down its end.
-/

set_option autoImplicit false
set_option relaxedAutoImplicit false

namespace Courier.Rehearsal

/-- What a job does between start and end. -/
inductive JobWork where
  | instant
  | sleep (time : Duration)
  | block
  deriving DecidableEq, Repr

/-- How far a job has come. -/
inductive ScriptedJob.Phase where
  | waiting
  | blocked
  | sleeping (wake : Nat)
  deriving DecidableEq, Repr

/-- A scripted job. -/
structure ScriptedJob where
  name : String
  work : JobWork := .instant
  crashes : Bool := false
  phase : ScriptedJob.Phase := .waiting
  deriving DecidableEq, Repr

/-- A note on a job. -/
structure JobNote where
  name : String
  /-- It is about the start, not the end. -/
  starts : Bool
  time : Nat
  deriving DecidableEq, Repr

/-- Where scripted jobs do their work. -/
structure JobSite where
  clock : Clock := {}
  released : List String := []
  /-- The notes, the last one first. -/
  notes : List JobNote := []
  callerRuns : Nat := 0

/-- Writes a note. -/
def JobSite.note (s : JobSite) (name : String) (starts : Bool) : JobSite :=
  { s with notes := ⟨name, starts, s.clock.now⟩ :: s.notes }

/-- A caller is left with its job. -/
def JobSite.lend (s : JobSite) : JobSite := { s with callerRuns := s.callerRuns + 1 }

namespace ScriptedJob

/-- Ends a job. -/
def finish (j : ScriptedJob) (s : JobSite) : Turn ScriptedJob Unit × JobSite :=
  (.done (), if j.crashes then s else s.note j.name false)

/-- Makes one move of a job; none if it must wait. -/
def step : JobStep JobSite ScriptedJob Unit := fun j s =>
  match j.phase with
  | .waiting =>
    let s := s.note j.name true
    match j.work with
    | .instant => some (j.finish s)
    | .block => some (.going { j with phase := .blocked }, s)
    | .sleep time => some (.going { j with phase := .sleeping (s.clock.moment.deadline time) }, s)
  | .blocked => if j.name ∈ s.released then some (j.finish s) else none
  | .sleeping wake => if wake ≤ s.clock.now then some (j.finish s) else none

/-- The instants at which a waiting job may move by itself. -/
def deadlines (j : ScriptedJob) : List Nat :=
  match j.phase with
  | .sleeping wake => [wake]
  | _ => []

end ScriptedJob

/-- A pool of scripted jobs. -/
abbrev JobPlant := Plant JobSite ScriptedJob

/-- How a job was taken. -/
abbrev Submittal := Except PoolError SubmitOutcome

/-- What goes on at the pool. -/
inductive JobTask where
  /-- Submits jobs one after the other; `done` holds what became of those before, the last one
  first. -/
  | submit (rest : List ScriptedJob) (current : Option (Submission ScriptedJob))
      (done : List Submittal)
  | shutdown (task : Shutdown)
  | background (task : PoolTask ScriptedJob)

/-- How a task at the pool ended. -/
inductive JobResult where
  | submitted (outcomes : List Submittal)
  | drained (complete : Bool)
  | over

namespace JobPlant

/-- Makes one move of a task; none if it must wait. -/
def step (t : JobTask) (s : JobPlant) : Option (Turn JobTask JobResult × JobPlant) :=
  match t with
  | .submit [] none done => some (.done (.submitted done.reverse), s)
  | .submit (job :: rest) none done => some (.going (.submit rest (some (.begun job)) done), s)
  | .submit rest (some current) done =>
    match current.step ScriptedJob.step JobSite.lend s with
    | none => none
    | some (.going current, s) => some (.going (.submit rest (some current) done), s)
    | some (.done outcome, s) => some (.going (.submit rest none (outcome :: done)), s)
  | .shutdown task =>
    match task.step s.site.clock.moment s.pool with
    | none => none
    | some (.going task, pool) => some (.going (.shutdown task), { s with pool })
    | some (.done complete, pool) => some (.done (.drained complete), { s with pool })
  | .background task =>
    match task.step ScriptedJob.step s.site.clock.moment s with
    | none => none
    | some (.going task, s) => some (.going (.background task), s)
    | some (.done (), s) => some (.done .over, s)

/-- The instants at which a waiting task may move by itself. -/
def deadlines : JobTask → List Nat
  | .submit _ (some current) _ => current.deadlines ScriptedJob.deadlines
  | .submit _ none _ => []
  | .shutdown task => task.deadlines
  | .background task => task.deadlines ScriptedJob.deadlines

/-- How the tasks of a pool move. -/
def machine : Machine JobPlant (Turn JobTask JobResult) :=
  { Machine.ofProcess step deadlines (fun s => s.site.clock)
      (fun s clock => { s with site := { s.site with clock } }) with
    started := fun s =>
      let (tasks, pool) := s.pool.takeFresh
      (tasks.map fun t => .going (.background t), { s with pool }) }

end JobPlant

/-- A rehearsal of a pool. -/
abbrev Jobs := Run JobPlant (Turn JobTask JobResult)

namespace Jobs

/-- A rehearsal of a fresh pool. -/
def new (settings : PoolSettings) : Except Crash Jobs :=
  match Pool.new settings with
  | .error crash => .error crash
  | .ok pool => .ok { world := { site := {}, pool } }

/-- Awaits a task. -/
def await (r : Jobs) (task : JobTask) : Option JobResult × Jobs :=
  let (ended, r) := Schedule.await JobPlant.machine r [(.going task, none)]
  ((ended.filterMap Awaited.result?).head?, r)

/-- Submits jobs one after the other. -/
def submit (r : Jobs) (jobs : List ScriptedJob) : List Submittal × Jobs :=
  match r.await (.submit jobs none []) with
  | (some (.submitted outcomes), r) => (outcomes, r)
  | (_, r) => ([], r)

/-- What becomes of a job that is submitted from where no worker can be started. -/
def submitOutside (r : Jobs) : Submittal :=
  .error (if r.world.pool.closed then .shutDown else .noRuntime)

/-- Releases the jobs of a name, now and later. -/
def release (r : Jobs) (name : String) : Jobs :=
  let site := { r.world.site with released := name :: r.world.site.released }
  { r with world := { r.world with site } }

/-- Shuts the pool down; true if all jobs ended in time. -/
def shutdown (r : Jobs) : Bool × Jobs :=
  match r.await (.shutdown .begun) with
  | (some (.drained complete), r) => (complete, r)
  | (_, r) => (false, r)

/-- Lets all tasks move at this instant. -/
def settle (r : Jobs) : Jobs := Schedule.rest JobPlant.machine r

/-- Lets time pass. -/
def advance (r : Jobs) (time : Duration) : Jobs := Schedule.advance JobPlant.machine r time

/-- The notes since the last time, and the rehearsal without them. -/
def takeNotes (r : Jobs) : List JobNote × Jobs :=
  let site := r.world.site
  (site.notes, { r with world := { r.world with site := { site with notes := [] } } })

end Jobs

end Courier.Rehearsal

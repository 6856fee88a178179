import Courier.Pool.Basic

/-!
# Submissions

A submission hands one job to a pool. If the pool leaves the job to the caller, the submission runs it
and ends when the job does.
-/

set_option autoImplicit false
set_option relaxedAutoImplicit false

namespace Courier

/-- Where a job went that was accepted. -/
inductive SubmitOutcome where
  | queued
  | spawned
  | callerRan
  deriving DecidableEq, Repr

/-- The name of an outcome. -/
def SubmitOutcome.name : SubmitOutcome → String
  | queued => "Queued"
  | spawned => "Spawned"
  | callerRan => "CallerRan"

/-- A submission under way. -/
inductive Submission (Job : Type) where
  | begun (job : Job)
  | running (job : Job)

namespace Submission

variable {Site Job Result : Type}

/-- Makes one move of a submission; none if the job must wait that it runs. `note` is what happens to the
site when the caller is left with the job. -/
def step (run : JobStep Site Job Result) (note : Site → Site) (t : Submission Job)
    (s : Plant Site Job) :
    Option (Turn (Submission Job) (Except PoolError SubmitOutcome) × Plant Site Job) :=
  match t with
  | .begun job =>
    match s.pool.submit job with
    | (.refused reason, pool) => some (.done (.error reason), { s with pool })
    | (.queued, pool) => some (.done (.ok .queued), { s with pool })
    | (.spawned, pool) => some (.done (.ok .spawned), { s with pool })
    | (.lent job, pool) => some (.going (.running job), ⟨note s.site, pool⟩)
  | .running job =>
    match run job s.site with
    | none => none
    | some (.going job, site) => some (.going (.running job), { s with site })
    | some (.done _, site) => some (.done (.ok .callerRan), ⟨site, s.pool.giveBack⟩)

/-- Gives up a submission, with the job that it runs. -/
def cancel (drop : Job → Site → Site) (t : Submission Job) (s : Plant Site Job) :
    Plant Site Job :=
  match t with
  | .begun _ => s
  | .running job => ⟨drop job s.site, s.pool.giveBack⟩

/-- The instants at which a waiting submission may move by itself, given those of its job. -/
def deadlines (jobDeadlines : Job → List Nat) : Submission Job → List Nat
  | .begun _ => []
  | .running job => jobDeadlines job

end Submission

end Courier

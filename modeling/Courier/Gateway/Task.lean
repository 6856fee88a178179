import Courier.DeadLetter.Replay
import Courier.Gateway.Batch
import Courier.Pool.Shutdown
import Courier.Schedule

/-!
# The tasks of a gateway

Everything that takes time at a gateway is a task: single calls, dispatches, submissions, batches,
replays, shutdowns, the workers of the pool, and actions that wait for their hour. `Gateway.machine`
tells the schedule how they move.
-/

set_option autoImplicit false
set_option relaxedAutoImplicit false

namespace Courier.Gateway

/-- The wording for a notification that the pool does not accept. -/
def submitMessage (reason : PoolError) : String := "pool error: " ++ reason.message

/-- The wording for a dead letter that is not replayed or not settled. -/
def replayMessage (reason : StoreError) : String := "reprocess error: " ++ reason.message

/-- How a task ended. -/
inductive Result where
  | called (outcome : GateCall.End)
  | dispatched (reports : List DeliveryReport)
  | submitted (outcome : Except PoolError SubmitOutcome)
  | batch (outcome : Except BatchError BatchResult)
  | replayed (outcome : Except StoreError ReplayOutcome)
  | replayedAll (outcome : Except StoreError ReplaySummary)
  /-- A shutdown; true if all jobs ended in time. -/
  | drained (complete : Bool)
  | nothing

/-- A task. -/
inductive Task where
  /-- A call through the gate of a resource to the sender of a platform. -/
  | call (resource platform : String) (call : GateCall)
  | dispatch (task : Dispatch)
  | submit (task : Submission Dispatch)
  | batch (task : Batch)
  | replay (task : Replay)
  | replayAll (task : ReplayAll)
  | shutdown (task : Shutdown)
  /-- A worker or a job of the pool. -/
  | background (task : PoolTask Dispatch)
  /-- Cancels the batch at an instant. -/
  | cancelBatchAt (instant : Nat)
  /-- Shuts the pool down at an instant. -/
  | shutdownAt (instant : Nat)
  | ended (result : Result)

namespace Task

/-- A task after a move. -/
def ofTurn {T R : Type} (going : T → Task) (done : R → Result) : Turn T R → Task
  | .going t => going t
  | .done r => .ended (done r)

/-- A move of a task that works on the depot. -/
def onDepot {T R : Type} (g : Gateway) (going : T → Task) (done : R → Result)
    (move : Option (Turn T R × Depot)) : Option (Task × Gateway) :=
  move.map fun (t, site) => (ofTurn going done t, { g with plant := { g.plant with site } })

/-- A move of a task that works on depot and pool. -/
def onPlant {T R : Type} (g : Gateway) (going : T → Task) (done : R → Result)
    (move : Option (Turn T R × Plant Depot Dispatch)) : Option (Task × Gateway) :=
  move.map fun (t, plant) => (ofTurn going done t, { g with plant })

/-- A move of a task that works on the pool. -/
def onPool {T R : Type} (g : Gateway) (going : T → Task) (done : R → Result)
    (move : Option (Turn T R × Pool Dispatch)) : Option (Task × Gateway) :=
  move.map fun (t, pool) => (ofTurn going done t, { g with plant := { g.plant with pool } })

/-- Makes one move of a task whose dispatches move in a given way; none if it has ended or must
wait. -/
def stepBy (run : Batch.DispatchStep) (t : Task) (g : Gateway) : Option (Task × Gateway) :=
  let d := g.depot
  match t with
  | .call resource platform c =>
    onDepot g (.call resource platform) .called (d.call resource platform c)
  | .dispatch t => onDepot g .dispatch .dispatched (run t d)
  | .submit t =>
    onPlant g .submit .submitted (t.step run (Depot.report · .callerRuns) g.plant)
  | .batch t => onPlant g .batch .batch (t.step run g.batchCancelled g.plant)
  | .replay t => onDepot g .replay .replayed (t.step d)
  | .replayAll t => onDepot g .replayAll .replayedAll (t.step d)
  | .shutdown t => onPool g .shutdown .drained (t.step d.moment g.pool)
  | .background t =>
    onPlant g .background (fun () => .nothing) (t.step run d.moment g.plant)
  | .cancelBatchAt instant =>
    if instant ≤ d.clock.now then some (.ended .nothing, { g with batchCancelled := true })
    else none
  | .shutdownAt instant =>
    if instant ≤ d.clock.now then some (.shutdown .begun, g) else none
  | .ended _ => none

/-- Makes one move of a task; none if it has ended or must wait. -/
def step (t : Task) (g : Gateway) : Option (Task × Gateway) := t.stepBy Dispatch.step g

/-- The task has ended. -/
def isDone : Task → Bool
  | .ended _ => true
  | _ => false

/-- The instants at which a waiting task may move by itself. -/
def deadlines : Task → List Nat
  | .call _ _ c => c.deadlines
  | .dispatch t => t.deadlines
  | .submit t => t.deadlines Dispatch.deadlines
  | .batch t => t.deadlines
  | .replay t => t.deadlines
  | .replayAll t => t.deadlines
  | .shutdown t => t.deadlines
  | .background t => t.deadlines Dispatch.deadlines
  | .cancelBatchAt instant => [instant]
  | .shutdownAt instant => [instant]
  | .ended _ => []

/-- Takes back what a task holds that is given up. -/
def cancel (t : Task) (g : Gateway) : Gateway :=
  let onDepot (work : Depot → Depot) : Gateway :=
    { g with plant := { g.plant with site := work g.plant.site } }
  match t with
  | .call resource platform c => onDepot fun d => d.cancelCall resource platform c
  | .dispatch t => onDepot t.cancel
  | .submit t => { g with plant := t.cancel Dispatch.cancel g.plant }
  | .batch t => { g with plant := t.cancel g.plant }
  | .replay t => onDepot t.cancel
  | .replayAll t => onDepot t.cancel
  | _ => g

end Task

/-- The tasks of the pool that were started since. -/
def takeFresh (g : Gateway) : List Task × Gateway :=
  let (tasks, pool) := g.plant.pool.takeFresh
  (tasks.map .background, { g with plant := { g.plant with pool } })

/-- How the tasks of a gateway move. -/
def machine : Machine Gateway Task where
  step := Task.step
  isDone := Task.isDone
  deadlines := Task.deadlines
  cancel := Task.cancel
  started := takeFresh
  now := fun g => g.depot.clock.now
  setNow := fun now g =>
    let site := g.plant.site
    { g with plant := { g.plant with site := { site with clock := { site.clock with now } } } }

end Courier.Gateway

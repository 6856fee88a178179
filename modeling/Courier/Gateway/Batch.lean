import Courier.Gateway.Basic

/-!
# Batches

A batch hands its notifications to the pool in chunks, with a pause between two chunks. It stops before a
chunk if it was cancelled, and at the first notification that the pool does not accept.
-/

set_option autoImplicit false
set_option relaxedAutoImplicit false

namespace Courier

/-- How far a batch has come. -/
structure BatchResult where
  published : Nat := 0
  chunks : Nat := 0
  total : Nat
  cancelled : Bool := false
  deriving DecidableEq, Repr

/-- Why a batch was not published. -/
inductive BatchError where
  | invalid (complaint : String)
  | interrupted (done : BatchResult) (reason : PoolError)
  deriving DecidableEq, Repr

/-- The wording. -/
def BatchError.message : BatchError → String
  | invalid complaint => "invalid batch: " ++ complaint
  | interrupted done reason =>
    "batch interrupted after " ++ toString done.published ++ " of " ++ toString done.total ++
      " notifications: " ++ reason.message

/-- What a batch is about to do. -/
inductive Batch.Phase where
  | begun
  /-- Begin a chunk, unless nothing is left. -/
  | between
  | pausing (wake : Nat)
  /-- Submit the rest of a chunk. -/
  | submitting (left : Nat)
  /-- Wait for a submission, with the rest of the chunk after it. -/
  | waiting (submission : Submission Dispatch) (left : Nat)

/-- A batch under way. -/
structure Batch where
  options : BatchSettings
  /-- The notifications that were not submitted yet. -/
  remaining : List Notification
  result : BatchResult
  phase : Batch.Phase := .begun

namespace Batch

/-- A batch of notifications. -/
def new (options : BatchSettings) (notifications : List Notification) : Batch where
  options := options
  remaining := notifications
  result := { total := notifications.length }

/-- A batch with more to do, or its end. -/
abbrev Next := Turn Batch (Except BatchError BatchResult) × Plant Depot Dispatch

/-- The batch stops because it was cancelled. -/
def stop (t : Batch) (s : Plant Depot Dispatch) : Next :=
  (.done (.ok { t.result with cancelled := true }), s)

/-- Begins a chunk, unless the batch was cancelled. -/
def beginChunk (t : Batch) (cancelled : Bool) (s : Plant Depot Dispatch) : Next :=
  if cancelled then t.stop s
  else (.going { t with phase := .submitting t.options.chunkSize }, s)

/-- How dispatches make their moves. -/
abbrev DispatchStep := JobStep Depot Dispatch (List DeliveryReport)

/-- Moves a submission; the rest of the chunk comes after it. -/
def submit (run : DispatchStep) (t : Batch) (submission : Submission Dispatch) (left : Nat)
    (s : Plant Depot Dispatch) : Option Next :=
  match submission.step run (Depot.report · .callerRuns) s with
  | none => none
  | some (.going submission, s) => some (.going { t with phase := .waiting submission left }, s)
  | some (.done (.error reason), s) => some (.done (.error (.interrupted t.result reason)), s)
  | some (.done (.ok _), s) =>
    some (.going
      { t with
        phase := .submitting left
        result := { t.result with published := t.result.published + 1 } }, s)

/-- Makes one move of a batch; none if it must wait. -/
def step (run : DispatchStep) (t : Batch) (cancelled : Bool) (s : Plant Depot Dispatch) :
    Option Next :=
  match t.phase with
  | .begun =>
    match t.options.invalid? with
    | some complaint => some (.done (.error (.invalid complaint)), s)
    | none => some (.going { t with phase := .between }, s)
  | .between =>
    if t.remaining.isEmpty then some (.done (.ok t.result), s)
    else if 0 < t.result.chunks ∧ !t.options.pause.isZero then
      let wake := s.site.moment.deadline t.options.pause
      some (.going { t with phase := .pausing wake }, s)
    else some (t.beginChunk cancelled s)
  | .pausing wake =>
    if cancelled then some (t.stop s)
    else if wake ≤ s.site.clock.now then some (t.beginChunk cancelled s)
    else none
  | .submitting left =>
    match left, t.remaining with
    | left + 1, n :: remaining => { t with remaining }.submit run (.begun (.pending n)) left s
    | _, _ =>
      let result := { t.result with chunks := t.result.chunks + 1 }
      some (.going { t with phase := .between, result }, s)
  | .waiting submission left => t.submit run submission left s

/-- Takes back what the batch holds that is given up. -/
def cancel (t : Batch) (s : Plant Depot Dispatch) : Plant Depot Dispatch :=
  match t.phase with
  | .waiting submission _ => submission.cancel Dispatch.cancel s
  | _ => s

/-- The instants at which a waiting batch may move by itself. -/
def deadlines (t : Batch) : List Nat :=
  match t.phase with
  | .pausing wake => [wake]
  | .waiting submission _ => submission.deadlines Dispatch.deadlines
  | _ => []

end Batch

end Courier

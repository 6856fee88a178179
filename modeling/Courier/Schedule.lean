import Courier.Clock
import Courier.Turn

/-!
# Running tasks on a clock

Tasks take turns on a shared world. A task moves until it must wait; when no task can move the clock
jumps to the next instant at which one of them may, rounded up to a whole millisecond. Tasks in front
are those whose end is awaited: they go first, and the others move only when all of those in front
must wait. A task in front may carry a time limit; once it has passed, a task that still waits is
cancelled.

The loops count their rounds down from `patience`, which no run of a real service reaches.
-/

set_option autoImplicit false
set_option relaxedAutoImplicit false

namespace Courier

/-- How tasks of a kind work on a world of a kind. -/
structure Machine (World Task : Type) where
  /-- One move of a task; none if the task has ended or must wait. -/
  step : Task → World → Option (Task × World)
  isDone : Task → Bool
  /-- The instants at which a waiting task may move by itself. -/
  deadlines : Task → List Nat
  /-- Takes back what a task holds that is given up. -/
  cancel : Task → World → World
  /-- The tasks that were started since, and the world without them. -/
  started : World → List Task × World
  now : World → Nat
  setNow : Nat → World → World

/-- The machine of processes that end with a result, hold nothing and start no others. -/
def Machine.ofProcess {World Process Result : Type}
    (step : Process → World → Option (Turn Process Result × World))
    (deadlines : Process → List Nat) (clock : World → Clock) (withClock : World → Clock → World) :
    Machine World (Turn Process Result) where
  step := fun
    | .going p, w => step p w
    | .done _, _ => none
  isDone := fun
    | .going _ => false
    | .done _ => true
  deadlines := fun
    | .going p => deadlines p
    | .done _ => []
  cancel := fun _ w => w
  started := fun w => ([], w)
  now := fun w => (clock w).now
  setNow := fun now w => withClock w { clock w with now }

/-- A task whose end is awaited. -/
structure Awaited (Task : Type) where
  task : Task
  limit : Option Nat := none
  cancelled : Bool := false
  /-- When it ended or was cancelled. -/
  endedAt : Option Nat := none

/-- The result of a process that ended. -/
def Awaited.result? {Process Result : Type} (a : Awaited (Turn Process Result)) : Option Result :=
  match a.task with
  | .done r => some r
  | .going _ => none

/-- A world with its tasks. -/
structure Run (World Task : Type) where
  world : World
  front : List (Awaited Task) := []
  back : List Task := []

namespace Schedule

variable {World Task : Type}

/-- More rounds than any run takes. -/
def patience : Nat := Nat.pow 2 62

/-- The first whole millisecond that is not before an instant. -/
def wholeMilli (instant : Nat) : Nat :=
  (instant + (Duration.nanosPerMilli - 1)) / Duration.nanosPerMilli * Duration.nanosPerMilli

/-- Moves a task until it waits or ends; true if it moved. -/
def exhaust (m : Machine World Task) : Nat → Bool → Task → World → Bool × Task × World
  | 0, moved, t, w => (moved, t, w)
  | rounds + 1, moved, t, w =>
    match m.step t w with
    | none => (moved, t, w)
    | some (t, w) => exhaust m rounds true t w

/-- One turn of a task in front. -/
def turnFront (m : Machine World Task) (a : Awaited Task) (w : World) :
    Bool × Awaited Task × World :=
  if a.endedAt.isSome then (false, a, w)
  else
    let (moved, t, w) := exhaust m patience false a.task w
    if m.isDone t then (true, { a with task := t, endedAt := some (m.now w) }, w)
    else
      match a.limit with
      | some limit =>
        if limit ≤ m.now w then
          (true, { a with task := t, cancelled := true, endedAt := some (m.now w) }, m.cancel t w)
        else (moved, { a with task := t }, w)
      | none => (moved, { a with task := t }, w)

/-- One pass over the tasks in front. -/
def passFront (m : Machine World Task) :
    List (Awaited Task) → World → Bool × List (Awaited Task) × World
  | [], w => (false, [], w)
  | a :: rest, w =>
    let (moved, a, w) := turnFront m a w
    let (others, rest, w) := passFront m rest w
    (moved || others, a :: rest, w)

/-- One pass over the other tasks; those that have ended are dropped. -/
def passBack (m : Machine World Task) : List Task → World → Bool × List Task × World
  | [], w => (false, [], w)
  | t :: rest, w =>
    let (moved, t, w) := exhaust m patience false t w
    let (others, rest, w) := passBack m rest w
    (moved || others, if m.isDone t then rest else t :: rest, w)

/-- Takes in the tasks that were started. -/
def adopt (m : Machine World Task) (r : Run World Task) : Bool × Run World Task :=
  let (tasks, world) := m.started r.world
  (!tasks.isEmpty, { r with world, back := r.back ++ tasks })

/-- A pass over the tasks in front, then one over the others. -/
def frontRound (m : Machine World Task) (r : Run World Task) : Bool × Run World Task :=
  let (moved, front, world) := passFront m r.front r.world
  let (grew, r) := adopt m { r with front, world }
  (moved || grew, r)

/-- A pass over the tasks that are not in front. -/
def backRound (m : Machine World Task) (r : Run World Task) : Bool × Run World Task :=
  let (moved, back, world) := passBack m r.back r.world
  let (grew, r) := adopt m { r with back, world }
  (moved || grew, r)

/-- All tasks in front have ended. -/
def isOver (r : Run World Task) : Bool := r.front.all fun a => a.endedAt.isSome

/-- The next instant after now at which a task may move by itself. -/
def nextInstant? (m : Machine World Task) (r : Run World Task) : Option Nat :=
  let awaited := r.front.filter fun a => a.endedAt.isNone
  let instants :=
    awaited.flatMap (fun a => a.limit.toList ++ m.deadlines a.task) ++ r.back.flatMap m.deadlines
  ((instants.map wholeMilli).filter fun i => m.now r.world < i).min?

/-- Lets all tasks move until each waits; the clock stands. -/
def settle (m : Machine World Task) : Nat → Run World Task → Run World Task
  | 0, r => r
  | rounds + 1, r =>
    let (movedFront, r) := frontRound m r
    let (movedBack, r) := backRound m r
    if movedFront || movedBack then settle m rounds r else r

/-- Runs until all tasks in front have ended, or nothing will ever move again. -/
def finish (m : Machine World Task) : Nat → Run World Task → Run World Task
  | 0, r => r
  | rounds + 1, r =>
    let (movedFront, r) := frontRound m r
    if isOver r then r
    else if movedFront then finish m rounds r
    else
      let (movedBack, r) := backRound m r
      if movedBack then finish m rounds r
      else
        match nextInstant? m r with
        | some instant => finish m rounds { r with world := m.setNow instant r.world }
        | none => r

/-- Lets the clock run to an instant; at each instant on the way the tasks move. -/
def runUntil (m : Machine World Task) (target : Nat) : Nat → Run World Task → Run World Task
  | 0, r => r
  | rounds + 1, r =>
    let r := settle m patience r
    match nextInstant? m r with
    | some instant =>
      if instant ≤ target then
        runUntil m target rounds { r with world := m.setNow instant r.world }
      else settle m patience { r with world := m.setNow target r.world }
    | none => settle m patience { r with world := m.setNow target r.world }

/-- Awaits the given tasks, each with its limit. The others do not move beyond that. -/
def await (m : Machine World Task) (r : Run World Task) (tasks : List (Task × Option Nat)) :
    List (Awaited Task) × Run World Task :=
  let front := tasks.map fun t => { task := t.1, limit := t.2 }
  let r := finish m patience { r with front }
  (r.front, { r with front := [] })

/-- Lets all tasks move at this instant. -/
def rest (m : Machine World Task) (r : Run World Task) : Run World Task := settle m patience r

/-- Lets some time pass. -/
def advance (m : Machine World Task) (r : Run World Task) (time : Duration) : Run World Task :=
  runUntil m (m.now r.world + time.nanos) patience r

/-- Starts tasks that nobody awaits. -/
def start (r : Run World Task) (tasks : List Task) : Run World Task :=
  { r with back := r.back ++ tasks }

end Schedule

end Courier

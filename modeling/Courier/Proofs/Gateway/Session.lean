import Courier.Gateway.Task
import Mathlib.Data.Nat.Notation
import Mathlib.Logic.Relation

/-!
# Sessions: all interleavings of the tasks of a gateway

The schedule runs the tasks of a gateway in one order. A session is a gateway with any number of
tasks that may move in every order: at each moment any task that can move may make its next move, a
dispatch may move any of its deliveries (`Dispatch.stepOne`), the tasks that the pool has started
may begin, a new task may come, or time passes. While time passes the clocks go on, lots are drawn,
types and formatters may be replaced, so that formatters may answer differently each time, and the
batch may be cancelled.

`Session.Move` is one of these moves and `Session.Reaches` any number of them. A `Watch` says which
tasks may come and what is noted of a move; notes change nothing.
-/

set_option autoImplicit false
set_option relaxedAutoImplicit false

namespace Courier

/-- A task at a gateway: as it came and as it is now. -/
structure Actor where
  origin : Gateway.Task
  task : Gateway.Task

/-- A task that has just come. -/
def Actor.new (task : Gateway.Task) : Actor := ⟨task, task⟩

/-- A gateway in use. -/
structure Session (Note : Type) where
  gateway : Gateway
  /-- Those who came stay in their places, also when they have ended. -/
  actors : List Actor := []
  /-- What was noted so far, the latest first, with the place of the actor who moved. -/
  notes : List (ℕ × Note) := []

/-- Which tasks may come to a session and what is noted of their moves. -/
structure Watch (Note : Type) where
  comes : Gateway.Task → Prop
  /-- What is noted of a move, the latest first; the delivery that a dispatch moves is chosen. -/
  note : ℕ → Gateway.Task → Gateway → List Note

/-- Works on the depot. -/
def Gateway.withDepot (g : Gateway) (site : Depot) : Gateway :=
  { g with plant := { g.plant with site } }

/-- Time passes at a gateway. -/
def Gateway.drift (g : Gateway) (now wall : ℕ) (draw : ℕ → Float) (types : TypeRegistry)
    (formatters : FormatterRegistry) (cancelled : Bool) : Gateway :=
  { g.withDepot
      { g.depot with clock := { g.depot.clock with now, wall, draw }, types, formatters } with
    batchCancelled := cancelled }

namespace Session

variable {Note : Type}

/-- The session after an actor has moved. -/
def turned (s : Session Note) (place : ℕ) (a : Actor) (task : Gateway.Task) (g : Gateway)
    (notes : List Note) : Session Note :=
  ⟨g, s.actors.set place { a with task }, notes.map (Prod.mk place) ++ s.notes⟩

/-- The session after the tasks that the pool has started have begun. -/
def begun (s : Session Note) : Session Note :=
  { s with
    gateway := s.gateway.takeFresh.2
    actors := s.actors ++ s.gateway.takeFresh.1.map Actor.new }

/-- If the pool has started nothing since, nothing begins. -/
theorem begun_of_quiet {s : Session Note} (hquiet : s.gateway.pool.fresh = []) : s.begun = s := by
  change s.gateway.plant.pool.fresh = [] at hquiet
  simp only [begun, Gateway.takeFresh, Pool.takeFresh, hquiet, List.map_nil, List.append_nil]
  rw [← hquiet]

/-- One move of a session. -/
inductive Move (w : Watch Note) : Session Note → Session Note → Prop where
  /-- An actor moves. -/
  | turn {s : Session Note} {place choice : ℕ} {a : Actor} {task : Gateway.Task}
      {gateway : Gateway} (hactor : s.actors[place]? = some a)
      (hstep : a.task.stepBy (Dispatch.stepOne choice) s.gateway = some (task, gateway)) :
      Move w s (s.turned place a task gateway (w.note choice a.task s.gateway))
  /-- The tasks that the pool has started begin. -/
  | begin {s : Session Note} : Move w s s.begun
  /-- A task comes. -/
  | come {s : Session Note} {task : Gateway.Task} (hcomes : w.comes task) :
      Move w s { s with actors := s.actors ++ [.new task] }
  /-- Time passes. -/
  | pass {s : Session Note} {now wall : ℕ} (draw : ℕ → Float) (types : TypeRegistry)
      (formatters : FormatterRegistry) (cancelled : Bool)
      (hnow : s.gateway.depot.clock.now ≤ now) (hwall : s.gateway.depot.clock.wall ≤ wall) :
      Move w s
        { s with gateway := s.gateway.drift now wall draw types formatters cancelled }

/-- Any number of moves. -/
abbrev Reaches (w : Watch Note) : Session Note → Session Note → Prop :=
  Relation.ReflTransGen (Move w)

/-- What every move keeps is kept by any number of moves. -/
theorem Reaches.keeps {w : Watch Note} {P : Session Note → Prop}
    (hmove : ∀ s s', P s → Move w s s' → P s') {s s' : Session Note} (h : Reaches w s s')
    (hs : P s) : P s' := by
  induction h with
  | refl => exact hs
  | tail _ hlast ih => exact hmove _ _ ih hlast

/-- The moves of actors at given places, in that order, each of them with the delivery that its
dispatch moves; none if one of them cannot move. -/
def play (w : Watch Note) : List (ℕ × ℕ) → Session Note → Option (Session Note)
  | [], s => some s
  | (place, choice) :: script, s =>
    match s.actors[place]? with
    | none => none
    | some a =>
      match a.task.stepBy (Dispatch.stepOne choice) s.gateway with
      | none => none
      | some (task, gateway) =>
        play w script (s.turned place a task gateway (w.note choice a.task s.gateway))

/-- What actors play is reached. -/
theorem reaches_of_play {w : Watch Note} {script : List (ℕ × ℕ)} {s s' : Session Note}
    (h : play w script s = some s') : Reaches w s s' := by
  induction script generalizing s with
  | nil =>
    obtain rfl := Option.some.inj h
    exact .refl
  | cons first rest ih =>
    rw [play] at h
    split at h
    · exact absurd h (by simp)
    · rename_i a hactor
      split at h
      · exact absurd h (by simp)
      · rename_i task gateway hstep
        exact .head (.turn hactor hstep) (ih h)

end Session

end Courier

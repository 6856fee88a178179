import Courier.Turn
import Mathlib.Data.Nat.Notation
import Mathlib.Logic.Relation

/-!
# Passages: one process among others

A process makes its moves in a world in which others are at work too. A passage is the way of one
process from its beginning on: its own moves, on each of which notes are taken, and between them
whatever the others do to the world. `Passage.Rules` says how the process moves, what is noted and
what the others may do. What holds of every passage holds of the process in whichever company it
runs.
-/

set_option autoImplicit false
set_option relaxedAutoImplicit false

namespace Courier

variable {Process Result World Note : Type}

/-- A process on its way. -/
structure Passage (Process Result World Note : Type) where
  turn : Turn Process Result
  world : World
  /-- What was noted of its moves, in order. -/
  notes : List Note := []

namespace Passage

/-- How a process moves among others. -/
structure Rules (Process Result World Note : Type) where
  step : Process → World → Option (Turn Process Result × World)
  /-- What is noted of the next move. -/
  note : Process → World → List Note
  /-- What the others may do while the process is where it is. -/
  others : Turn Process Result → World → World → Prop

/-- The process moves, or the others do. -/
inductive Move (rules : Rules Process Result World Note) :
    Passage Process Result World Note → Passage Process Result World Note → Prop where
  | moves {t : Process} {turn : Turn Process Result} {w w' : World} {notes : List Note}
      (hstep : rules.step t w = some (turn, w')) :
      Move rules ⟨.going t, w, notes⟩ ⟨turn, w', notes ++ rules.note t w⟩
  | yields {turn : Turn Process Result} {w w' : World} {notes : List Note}
      (hothers : rules.others turn w w') : Move rules ⟨turn, w, notes⟩ ⟨turn, w', notes⟩

/-- Any number of moves. -/
abbrev Reaches (rules : Rules Process Result World Note) :
    Passage Process Result World Note → Passage Process Result World Note → Prop :=
  Relation.ReflTransGen (Move rules)

variable {rules : Rules Process Result World Note}
  {p p' : Passage Process Result World Note}

/-- What the moves of the process and those of the others keep is kept all the way. -/
theorem Reaches.keeps (P : Passage Process Result World Note → Prop) (h : Reaches rules p p')
    (hmoves : ∀ t turn w w' notes, rules.step t w = some (turn, w') → P ⟨.going t, w, notes⟩ →
      P ⟨turn, w', notes ++ rules.note t w⟩)
    (hyields : ∀ turn w w' notes, rules.others turn w w' → P ⟨turn, w, notes⟩ →
      P ⟨turn, w', notes⟩)
    (hp : P p) : P p' := by
  induction h with
  | refl => exact hp
  | tail _ hlast ih =>
    cases hlast with
    | moves hstep => exact hmoves _ _ _ _ _ hstep ih
    | yields hothers => exact hyields _ _ _ _ hothers ih

/-- The process makes a number of moves; none if it cannot. -/
def ahead (rules : Rules Process Result World Note) :
    ℕ → Passage Process Result World Note → Option (Passage Process Result World Note)
  | 0, p => some p
  | moves + 1, p =>
    match p.turn with
    | .done _ => none
    | .going t =>
      match rules.step t p.world with
      | none => none
      | some (turn, w) => ahead rules moves ⟨turn, w, p.notes ++ rules.note t p.world⟩

theorem reaches_of_ahead {moves : ℕ} (h : ahead rules moves p = some p') : Reaches rules p p' := by
  induction moves generalizing p with
  | zero =>
    obtain rfl := Option.some.inj h
    exact .refl
  | succ moves ih =>
    obtain ⟨turn, w, notes⟩ := p
    cases turn with
    | done result => exact absurd h (by simp [ahead])
    | going t =>
      rw [ahead] at h
      split at h
      · exact absurd h (by simp)
      · rename_i heq
        obtain rfl := Turn.going.inj heq
        split at h
        · exact absurd h (by simp)
        · rename_i hstep
          exact .head (.moves hstep) (ih h)

end Passage

end Courier

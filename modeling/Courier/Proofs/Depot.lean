import Courier.Depot
import Courier.Proofs.Json.Members
import Mathlib.Data.Nat.Notation
import Mathlib.Tactic.SplitIfs

/-!
# What a call changes in a depot

A call through a gate changes the gates, the senders and the events reported, and a moment is handed
out; everything else in the depot stays (`Depot.call_hears`, and `Depot.call_eq` where the events do
not matter). Each equation says so with the new depot on its right-hand side, so that every other
field is the old one by definition.
-/

set_option autoImplicit false
set_option relaxedAutoImplicit false

namespace Courier

namespace Depot

variable {d d' : Depot}

/-- The events after some more were reported, the last one first. -/
def hears (d : Depot) (reported : List Event) : List Event :=
  if d.observed then reported ++ d.events else d.events

theorem hears_of_observed (h : d.observed = true) (reported : List Event) :
    d.hears reported = reported ++ d.events :=
  if_pos h

theorem report_hears (d : Depot) (e : Event) : d.report e = { d with events := d.hears [e] } := by
  rw [report, hears]
  split_ifs <;> rfl

theorem report_eq (d : Depot) (e : Event) : ∃ events, d.report e = { d with events } :=
  ⟨_, d.report_hears e⟩

theorem foldl_report_hears (reported : List Event) (d : Depot) :
    reported.foldl report d = { d with events := d.hears reported.reverse } := by
  induction reported generalizing d with
  | nil => simp [hears]
  | cons e rest ih =>
    rw [List.foldl_cons, ih, report_hears]
    simp only [hears, List.reverse_cons, List.append_assoc, List.singleton_append]
    split_ifs <;> rfl

/-- Work on a gate and a sender finds both, changes them alone and is heard. -/
theorem onScene_hears {α : Type} {resource platform : String}
    {work : GateScene → Option (α × GateScene)} {a : α}
    (h : d.onScene resource platform work = some (a, d')) :
    ∃ gate sender scene, d.gates.get? resource = some gate ∧
      d.senders.get? platform = some sender ∧ work { gate, sender } = some (a, scene) ∧
      d' = { d with
        gates := d.gates.set scene.gate
        senders := d.senders.set platform scene.sender
        events := d.hears scene.events } := by
  unfold onScene at h
  split at h
  · rename_i gate sender hgate hsender
    split at h
    · exact absurd h (by simp)
    · rename_i b scene hwork
      obtain ⟨rfl, rfl⟩ := Prod.mk.inj (Option.some.inj h)
      refine ⟨gate, sender, scene, hgate, hsender, hwork, ?_⟩
      rw [foldl_report_hears, List.reverse_reverse]
      rfl
  · exact absurd h (by simp)

/-- A move of a call finds its gate and its sender, changes them alone, hands out a moment and is
heard. -/
theorem call_hears {resource platform : String} {c : GateCall}
    {turn : Turn GateCall GateCall.End} (h : d.call resource platform c = some (turn, d')) :
    ∃ gate sender scene, d.gates.get? resource = some gate ∧
      d.senders.get? platform = some sender ∧
      c.step d.gates.feedback d.moment { gate, sender } = some (turn, scene) ∧
      d' = { d.tick with
        gates := d.gates.set scene.gate
        senders := d.senders.set platform scene.sender
        events := d.hears scene.events } :=
  onScene_hears h

/-- A move of a call finds its gate and its sender, changes them alone and hands out a moment. -/
theorem call_eq {resource platform : String} {c : GateCall} {turn : Turn GateCall GateCall.End}
    (h : d.call resource platform c = some (turn, d')) :
    ∃ gate sender scene, d.gates.get? resource = some gate ∧
      d.senders.get? platform = some sender ∧
      c.step d.gates.feedback d.moment { gate, sender } = some (turn, scene) ∧
      ∃ events, d' = { d.tick with
        gates := d.gates.set scene.gate
        senders := d.senders.set platform scene.sender
        events } := by
  obtain ⟨gate, sender, scene, hgate, hsender, hstep, heq⟩ := call_hears h
  exact ⟨gate, sender, scene, hgate, hsender, hstep, _, heq⟩

end Depot

end Courier

import Courier.Gate.Basic
import Courier.Metrics
import Courier.Proofs.Depot
import Mathlib.Algebra.BigOperators.Group.List.Basic
import Mathlib.Algebra.Order.Ring.Int
import Mathlib.Data.List.Induction
import Mathlib.Data.String.Basic

/-!
# What the counters say

`Metrics.reason` is the count of the failures with a label. It is the number of the events that
report such a failure (`Metrics.reason_ofEvents`), and all of these counts together are the count of
failures (`Metrics.failures_ofEvents`): the labels stand in order, each once, so that no failure is
counted twice.
-/

set_option autoImplicit false
set_option relaxedAutoImplicit false

namespace Courier

/-- The event reports a failure with a label. -/
def Event.isFailureOf (kind : String) : Event → Bool
  | .failure _ reason => reason.kind = kind
  | _ => false

/-- The event reports that a call was turned away in a way. -/
def Event.isRejection : Rejection → Event → Bool
  | .bulkheadFull, .bulkheadFull _ | .rateLimited, .rateLimited _ | .circuitOpen, .skipped _ => true
  | _, _ => false

namespace Metrics

/-- The labels stand in order, each once. -/
def Ordered (reasons : List (String × ℕ)) : Prop := reasons.Pairwise fun a b ↦ a.1 < b.1

variable {reasons : List (String × ℕ)}

theorem lookup_eq_none {kind : String} (h : ∀ member ∈ reasons, kind < member.1) :
    Json.lookup kind reasons = none := by
  induction reasons with
  | nil => rfl
  | cons first rest ih =>
    rw [Json.lookup_cons, if_neg (h first List.mem_cons_self).ne]
    exact ih fun member hmember ↦ h member (List.mem_cons_of_mem _ hmember)

/-- A count that is put in takes the place of what it was before. -/
theorem sum_insertMember (h : Ordered reasons) (kind : String) (n : ℕ) :
    ((Json.insertMember kind n reasons).map Prod.snd).sum + (Json.lookup kind reasons).getD 0 =
      (reasons.map Prod.snd).sum + n := by
  induction reasons with
  | nil => simp [Json.insertMember, Json.lookup]
  | cons first rest ih =>
    obtain ⟨hfirst, hrest⟩ := List.pairwise_cons.mp h
    rw [Json.insertMember, Json.lookup_cons]
    split_ifs with hlt heq heq
    · exact absurd heq hlt.ne
    · rw [lookup_eq_none fun member hmember ↦ lt_trans hlt (hfirst member hmember)]
      simp only [List.map_cons, List.sum_cons, Option.getD_none]
      omega
    · simp only [List.map_cons, List.sum_cons, Option.getD_some]
      omega
    · have hsum := ih hrest
      simp only [List.map_cons, List.sum_cons]
      omega

/-- The count of the failures with a label. -/
def reason (m : Metrics) (kind : String) : ℕ := (Json.lookup kind m.failureReasons).getD 0

theorem reason_record (m : Metrics) (e : Event) (kind : String) :
    (m.record e).reason kind = m.reason kind + if e.isFailureOf kind then 1 else 0 := by
  cases e with
  | failure resource failure =>
    simp only [record, reason, countReason, Json.lookup_insertMember, Event.isFailureOf,
      decide_eq_true_eq]
    by_cases h : kind = failure.kind
    · simp [h]
    · simp [h, Ne.symm h]
  | _ => rfl

theorem ofEvents_concat (events : List Event) (e : Event) :
    ofEvents (events ++ [e]) = (ofEvents events).record e := by
  simp [ofEvents]

/-- The count for a label is the number of failures with that label. -/
theorem reason_ofEvents (events : List Event) (kind : String) :
    (ofEvents events).reason kind = events.countP (Event.isFailureOf kind) := by
  induction events using List.reverseRecOn with
  | nil => rfl
  | append_singleton events e ih =>
    rw [ofEvents_concat, reason_record, ih, List.countP_append, List.countP_singleton]

theorem ordered_ofEvents (events : List Event) : Ordered (ofEvents events).failureReasons := by
  induction events using List.reverseRecOn with
  | nil => exact .nil
  | append_singleton events e ih =>
    rw [ofEvents_concat]
    cases e with
    | failure resource failure => exact Json.Sorted.insertMember ih _ _
    | _ => exact ih

/-- Each failure is counted under one label. -/
theorem failures_ofEvents (events : List Event) :
    (ofEvents events).failures = ((ofEvents events).failureReasons.map Prod.snd).sum := by
  induction events using List.reverseRecOn with
  | nil => rfl
  | append_singleton events e ih =>
    rw [ofEvents_concat]
    cases e with
    | failure resource failure =>
      have hsum := sum_insertMember (ordered_ofEvents events) failure.kind
        ((Json.lookup failure.kind (ofEvents events).failureReasons).getD 0 + 1)
      simp only [record, countReason, ih]
      omega
    | _ => exact ih

/-- The count of the calls that were turned away in a way. -/
def rejections (m : Metrics) : Rejection → ℕ
  | .bulkheadFull => m.bulkheadFull
  | .rateLimited => m.rateLimited
  | .circuitOpen => m.skipped

theorem rejections_record (m : Metrics) (e : Event) (rejection : Rejection) :
    (m.record e).rejections rejection =
      m.rejections rejection + if e.isRejection rejection then 1 else 0 := by
  cases rejection <;> cases e <;> rfl

end Metrics

end Courier

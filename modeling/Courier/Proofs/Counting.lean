import Mathlib.Algebra.BigOperators.Group.List.Basic
import Mathlib.Data.List.Perm.Basic
import Mathlib.Data.List.Count
import Mathlib.Data.List.Perm.Subperm
import Mathlib.Tactic.Abel

/-!
# Counting what lists hold

Lists of what is under way at a gateway change in one place at a time. `countP_flatMap_set` says
what such a change does to a count, `sum_map_set` what it does to a sum, and `subperm_set` that a
list goes on holding another in which the same change is made; two lists in which every count is the
same hold the same (`perm_of_countP`).
-/

set_option autoImplicit false
set_option relaxedAutoImplicit false

namespace Courier

variable {α β : Type}

/-- The members of whom something holds, after one of them has been replaced. -/
theorem countP_set {l : List α} {i : ℕ} {a : α} (h : l[i]? = some a) (p : α → Bool) (b : α) :
    (l.set i b).countP p + (if p a then 1 else 0) = l.countP p + (if p b then 1 else 0) := by
  obtain ⟨hlt, rfl⟩ := List.getElem?_eq_some_iff.mp h
  rw [(List.set_perm_cons_eraseIdx hlt b).countP_eq,
    ← (List.getElem_cons_eraseIdx_perm hlt).countP_eq, List.countP_cons, List.countP_cons]
  omega

/-- What the members hold together, after one of them has been replaced. -/
theorem countP_flatMap_set {l : List α} {i : ℕ} {a : α} (h : l[i]? = some a) (f : α → List β)
    (p : β → Bool) (b : α) :
    ((l.set i b).flatMap f).countP p + (f a).countP p =
      (l.flatMap f).countP p + (f b).countP p := by
  obtain ⟨hlt, rfl⟩ := List.getElem?_eq_some_iff.mp h
  rw [((List.set_perm_cons_eraseIdx hlt b).flatMap_right f).countP_eq,
    ← ((List.getElem_cons_eraseIdx_perm hlt).flatMap_right f).countP_eq, List.flatMap_cons,
    List.flatMap_cons, List.countP_append, List.countP_append]
  omega

/-- What the members weigh together, after one of them has been replaced. -/
theorem sum_map_set {M : Type} [AddCommMonoid M] {l : List α} {i : ℕ} {a : α} (h : l[i]? = some a)
    (f : α → M) (b : α) : ((l.set i b).map f).sum + f a = (l.map f).sum + f b := by
  obtain ⟨hlt, rfl⟩ := List.getElem?_eq_some_iff.mp h
  rw [((List.set_perm_cons_eraseIdx hlt b).map f).sum_eq,
    ← ((List.getElem_cons_eraseIdx_perm hlt).map f).sum_eq, List.map_cons, List.map_cons,
    List.sum_cons, List.sum_cons]
  abel

/-- A list that holds others holds them also after one of them has been replaced in both. -/
theorem subperm_set {before after l : List α} {a : α}
    (h : (before ++ a :: after).Subperm l) :
    ∃ place, l[place]? = some a ∧ ∀ b, (before ++ b :: after).Subperm (l.set place b) := by
  have hcons : (a :: (before ++ after)).Subperm l := List.perm_middle.symm.subperm.trans h
  obtain ⟨place, hlt, rfl⟩ := List.getElem_of_mem (hcons.subset List.mem_cons_self)
  refine ⟨place, List.getElem?_eq_getElem hlt, fun b ↦ ?_⟩
  have hrest : (before ++ after).Subperm (l.eraseIdx place) :=
    (List.subperm_cons _).mp (hcons.trans (List.getElem_cons_eraseIdx_perm hlt).symm.subperm)
  exact (List.perm_middle.subperm.trans ((List.subperm_cons b).mpr hrest)).trans
    (List.set_perm_cons_eraseIdx hlt b).symm.subperm

theorem perm_of_countP {l l' : List α} (h : ∀ p, l.countP p = l'.countP p) : l.Perm l' := by
  classical
  exact List.perm_iff_count.mpr fun a ↦ h (· == a)

end Courier

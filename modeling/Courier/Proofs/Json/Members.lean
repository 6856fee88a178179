import Courier.Json.Basic
import Mathlib.Data.List.Induction
import Mathlib.Data.Nat.Notation
import Mathlib.Data.String.Basic
import Mathlib.Tactic.SplitIfs

/-!
# Members in the order of their keys

Objects and tables hold their members in the order of their keys, each key once (`Json.Sorted`). A
member that is put in keeps this order (`Sorted.insertMember`) and is what is found under its key
from then on (`lookup_insertMember`). Members can be put into order (`sorted_sortMembers`), and those
that are in order stay as they are (`sortMembers_of_sorted`).
-/

set_option autoImplicit false
set_option relaxedAutoImplicit false

namespace Courier.Json

/-- The members of an object are in the order of their keys, each key once. -/
def Sorted {α : Type} (members : List (String × α)) : Prop :=
  members.Pairwise fun a b ↦ a.1 < b.1

variable {α β : Type} {members : List (String × α)} {key : String} {value : α}

/-! ### What is found -/

theorem lookup_cons (other : String) (member : String × α) (members : List (String × α)) :
    lookup other (member :: members) =
      if other = member.1 then some member.2 else lookup other members := by
  by_cases h : member.1 = other
  · simp [lookup, h]
  · simp [lookup, h, Ne.symm h]

/-- A member that was put in is found, and every other one is found as before. -/
theorem lookup_insertMember (key other : String) (value : α) (members : List (String × α)) :
    lookup other (insertMember key value members) =
      if other = key then some value else lookup other members := by
  induction members with
  | nil => exact lookup_cons other (key, value) []
  | cons member rest ih =>
    rw [insertMember]
    by_cases hlt : key < member.1
    · rw [if_pos hlt, lookup_cons]
    · rw [if_neg hlt]
      by_cases hkey : key = member.1
      · rw [if_pos hkey, lookup_cons, lookup_cons, ← hkey]
        by_cases h : other = key
        · rw [if_pos h, if_pos h]
        · rw [if_neg h, if_neg h, if_neg h]
      · rw [if_neg hkey, lookup_cons, lookup_cons, ih]
        by_cases h : other = member.1
        · rw [if_pos h, if_pos h, if_neg fun heq ↦ hkey (heq.symm.trans h)]
        · rw [if_neg h, if_neg h]

/-- A value is found under the keys of the members. -/
theorem isSome_lookup_iff : (lookup key members).isSome ↔ key ∈ members.map Prod.fst := by
  rw [lookup, Option.isSome_map, List.find?_isSome]
  simp

/-! ### What is held -/

theorem mem_insertMember {member : String × α} (h : member ∈ insertMember key value members) :
    member = (key, value) ∨ member ∈ members := by
  induction members with
  | nil => exact .inl (List.mem_singleton.mp h)
  | cons first rest ih =>
    rw [insertMember] at h
    split_ifs at h
    · exact List.mem_cons.mp h
    · exact (List.mem_cons.mp h).imp_right (List.mem_cons_of_mem _)
    · obtain rfl | h := List.mem_cons.mp h
      · exact .inr List.mem_cons_self
      · exact (ih h).imp_right (List.mem_cons_of_mem _)

theorem Sorted.insertMember (h : Sorted members) (key : String) (value : α) :
    Sorted (insertMember key value members) := by
  induction members with
  | nil => exact List.pairwise_singleton _ _
  | cons first rest ih =>
    obtain ⟨hfirst, hrest⟩ := List.pairwise_cons.mp h
    rw [Json.insertMember]
    split_ifs with hlt heq
    · refine List.pairwise_cons.mpr ⟨fun member hmember ↦ ?_, h⟩
      obtain rfl | hmember := List.mem_cons.mp hmember
      · exact hlt
      · exact lt_trans hlt (hfirst member hmember)
    · exact List.pairwise_cons.mpr ⟨fun member hmember ↦ heq ▸ hfirst member hmember, hrest⟩
    · refine List.pairwise_cons.mpr ⟨fun member hmember ↦ ?_, ih hrest⟩
      obtain rfl | hmember := mem_insertMember hmember
      · exact lt_of_le_of_ne (not_lt.mp hlt) (Ne.symm heq)
      · exact hfirst member hmember

theorem Sorted.map (h : Sorted members) (f : α → β) :
    Sorted (members.map fun m ↦ (m.1, f m.2)) :=
  List.pairwise_map.mpr h

theorem mem_sortMembers {member : String × α} (h : member ∈ sortMembers members) :
    member ∈ members := by
  induction members using List.reverseRecOn with
  | nil => exact h
  | append_singleton members last ih =>
    rw [sortMembers, List.foldl_concat] at h
    obtain rfl | h := mem_insertMember h
    · exact List.mem_append_right _ (List.mem_singleton.mpr rfl)
    · exact List.mem_append_left _ (ih h)

theorem sorted_sortMembers (members : List (String × α)) : Sorted (sortMembers members) := by
  induction members using List.reverseRecOn with
  | nil => exact .nil
  | append_singleton members last ih =>
    rw [sortMembers, List.foldl_concat]
    exact ih.insertMember last.1 last.2

theorem sorted_of_ofMembers {members sorted : List (String × Json)}
    (h : ofMembers members = .object sorted) : Sorted sorted := by
  obtain rfl := Json.object.inj h
  exact sorted_sortMembers members

/-- A member with the greatest key belongs at the end. -/
theorem insertMember_of_last (value : α) (h : ∀ m ∈ members, m.1 < key) :
    insertMember key value members = members ++ [(key, value)] := by
  induction members with
  | nil => rfl
  | cons member members ih =>
    obtain ⟨k, v⟩ := member
    have hless : k < key := h (k, v) List.mem_cons_self
    rw [insertMember, if_neg (not_lt_of_gt hless), if_neg (ne_of_gt hless),
      ih fun m hm ↦ h m (List.mem_cons_of_mem _ hm), List.cons_append]

/-- Members in order stay as they are. -/
theorem sortMembers_of_sorted (h : Sorted members) : sortMembers members = members := by
  induction members using List.reverseRecOn with
  | nil => rfl
  | append_singleton members member ih =>
    obtain ⟨hmembers, -, hlast⟩ := List.pairwise_append.mp h
    have hsorted := ih hmembers
    rw [sortMembers] at hsorted ⊢
    rw [List.foldl_concat, hsorted, insertMember_of_last _ fun m hm ↦
      hlast m hm member (List.mem_singleton.mpr rfl)]

end Courier.Json

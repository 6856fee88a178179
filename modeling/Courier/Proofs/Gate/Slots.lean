import Courier.Bulkhead
import Courier.Proofs.Counting
import Mathlib.Data.List.Nodup

/-!
# The slots of a bulkhead and those who want them

Whoever comes to a bulkhead stands outside of it, in line with a ticket, or inside with a slot.
`Bulkhead.Passage` has one constructor for each way in which one of them changes place, and what
this does to the bulkhead; a wait for a slot moves no other way (`SlotWait.passage_of_step`,
`SlotWait.passage_of_cancel`).

`Bulkhead.Sound` is the invariant: the slots that are free, granted and taken are all there are, the
tickets of those in line are granted or in the queue, those granted come first, and nobody is in the
queue while a slot is free. Slots are counted, never named, so a slot in transit is one that the
total does not have: `Sound.exit` takes it out and `Sound.release` puts it back, to the first in
line if there is one. `Sound.pass` joins them.
-/

set_option autoImplicit false
set_option relaxedAutoImplicit false

namespace Courier

/-- Where someone stands who wants a slot. -/
inductive Standing where
  | outside
  | inLine (ticket : ℕ)
  | inside
  deriving DecidableEq, Repr

namespace Bulkhead

/-- Someone changes place at a bulkhead. -/
inductive Passage (b : Bulkhead) : Standing → Bulkhead → Standing → Prop where
  | stays (x : Standing) : Passage b x b x
  | takes {b' : Bulkhead} (htake : b.take? = some b') : Passage b .outside b' .inside
  | queues (htake : b.take? = none) : Passage b .outside b.enqueue.2 (.inLine b.enqueue.1)
  | claims {ticket : ℕ} {b' : Bulkhead} (hclaim : b.claim? ticket = some b') :
      Passage b (.inLine ticket) b' .inside
  | abandons (ticket : ℕ) : Passage b (.inLine ticket) (b.abandon ticket) .outside
  | leaves : Passage b .inside b.release .outside

/-- A bulkhead of some slots and the standings of all who came to it. -/
structure Sound (total : ℕ) (b : Bulkhead) (l : List Standing) : Prop where
  slots_eq : b.free + b.granted.length + l.count .inside = total
  tickets_count : ∀ t, (b.granted ++ b.queue).count t = l.count (.inLine t)
  tickets_nodup : (b.granted ++ b.queue).Nodup
  granted_first : ∀ t ∈ b.granted, ∀ u ∈ b.queue, t < u
  queue_sorted : b.queue.Pairwise (· < ·)
  ticket_lt : ∀ t ∈ b.granted ++ b.queue, t < b.issued
  queue_eq_nil : b.free ≠ 0 → b.queue = []

variable {total : ℕ} {b b' : Bulkhead} {l : List Standing} {i : ℕ} {x : Standing}

/-! ### Counting standings -/

theorem count_set (hplace : l[i]? = some x) (y z : Standing) :
    (l.set i y).count z + (if x = z then 1 else 0) = l.count z + if y = z then 1 else 0 := by
  simpa [List.count] using countP_set hplace (· == z) y

theorem take?_eq_none : b.take? = none ↔ b.free = 0 := by
  unfold take?
  split <;> simp_all

theorem take?_eq_some :
    b.take? = some b' ↔ b.free ≠ 0 ∧ b' = { b with free := b.free - 1 } := by
  unfold take?
  split
  · simp_all
  · rename_i free hfree
    simp [hfree, eq_comm]

theorem claim?_eq_some {ticket : ℕ} :
    b.claim? ticket = some b' ↔
      ticket ∈ b.granted ∧ b' = { b with granted := b.granted.erase ticket } := by
  unfold claim?
  split_ifs with hmem <;> simp [hmem, eq_comm]

/-! ### Single moves -/

/-- A new bulkhead has all its slots free. -/
theorem sound_new {s : BulkheadSettings} (h : Bulkhead.new s = .ok b) :
    Sound s.maxConcurrent b [] := by
  unfold Bulkhead.new at h
  split_ifs at h
  obtain rfl := Except.ok.inj h
  constructor <;> simp

/-- Someone comes to the bulkhead. -/
theorem Sound.come (hs : Sound total b l) : Sound total b (l ++ [.outside]) :=
  { hs with
    slots_eq := by simpa using hs.slots_eq
    tickets_count := fun t ↦ by simpa using hs.tickets_count t }

theorem Sound.take (hs : Sound total b l) (hplace : l[i]? = some .outside)
    (htake : b.take? = some b') : Sound total b' (l.set i .inside) := by
  obtain ⟨hfree, rfl⟩ := take?_eq_some.mp htake
  refine { hs with slots_eq := ?_, tickets_count := fun t ↦ ?_, queue_eq_nil := fun _ ↦ ?_ }
  · have hslots := hs.slots_eq
    have hcount := count_set hplace .inside .inside
    simp only [if_true, reduceCtorEq, if_false] at hcount
    change b.free - 1 + b.granted.length + _ = _
    omega
  · have hcount := count_set hplace .inside (.inLine t)
    simp only [reduceCtorEq, if_false, Nat.add_zero] at hcount
    rw [hcount]
    exact hs.tickets_count t
  · exact hs.queue_eq_nil hfree

theorem Sound.enqueue (hs : Sound total b l) (hplace : l[i]? = some .outside)
    (htake : b.take? = none) : Sound total b.enqueue.2 (l.set i (.inLine b.enqueue.1)) := by
  have hfree := take?_eq_none.mp htake
  have hnew : b.issued ∉ b.granted ++ b.queue := fun hmem ↦
    Nat.lt_irrefl _ (hs.ticket_lt _ hmem)
  have htickets : b.granted ++ (b.queue ++ [b.issued]) = b.granted ++ b.queue ++ [b.issued] :=
    (List.append_assoc ..).symm
  constructor
  · have hcount := count_set hplace (.inLine b.issued) .inside
    simp only [reduceCtorEq, if_false, Nat.add_zero] at hcount
    have hslots := hs.slots_eq
    simp only [Bulkhead.enqueue, hcount]
    exact hslots
  · intro t
    have hcount := count_set hplace (.inLine b.issued) (.inLine t)
    have htickets_count := hs.tickets_count t
    simp only [reduceCtorEq, if_false, Nat.add_zero, Standing.inLine.injEq] at hcount
    simp only [Bulkhead.enqueue, htickets, hcount, List.count_append, List.count_singleton,
      beq_iff_eq] at htickets_count ⊢
    omega
  · simp only [Bulkhead.enqueue, htickets]
    exact List.nodup_append_comm.mp (List.nodup_cons.mpr ⟨hnew, hs.tickets_nodup⟩)
  · intro t hgranted u hqueue
    rcases List.mem_append.mp hqueue with hqueue | hlast
    · exact hs.granted_first t hgranted u hqueue
    · rw [List.mem_singleton.mp hlast]
      exact hs.ticket_lt t (List.mem_append_left _ hgranted)
  · refine List.pairwise_append.mpr ⟨hs.queue_sorted, List.pairwise_singleton .., ?_⟩
    intro t hqueue u hlast
    rw [List.mem_singleton.mp hlast]
    exact hs.ticket_lt t (List.mem_append_right _ hqueue)
  · intro t hmem
    simp only [Bulkhead.enqueue, htickets] at hmem ⊢
    rcases List.mem_append.mp hmem with hmem | hlast
    · exact Nat.lt_succ_of_lt (hs.ticket_lt t hmem)
    · rw [List.mem_singleton.mp hlast]
      exact Nat.lt_succ_self _
  · exact fun hne ↦ absurd hfree hne

theorem Sound.claim {ticket : ℕ} (hs : Sound total b l)
    (hplace : l[i]? = some (.inLine ticket)) (hclaim : b.claim? ticket = some b') :
    Sound total b' (l.set i .inside) := by
  obtain ⟨hmem, rfl⟩ := claim?_eq_some.mp hclaim
  have hsublist : (b.granted.erase ticket ++ b.queue).Sublist (b.granted ++ b.queue) :=
    List.erase_sublist.append_right _
  refine
    { hs with
      slots_eq := ?_
      tickets_count := fun t ↦ ?_
      tickets_nodup := hs.tickets_nodup.sublist hsublist
      granted_first := fun t hgranted ↦ hs.granted_first t (List.mem_of_mem_erase hgranted)
      ticket_lt := fun t hmem ↦ hs.ticket_lt t (hsublist.subset hmem) }
  · have hslots := hs.slots_eq
    have hcount := count_set hplace .inside .inside
    have hlength := List.length_erase_of_mem hmem
    have hpos := List.length_pos_of_mem hmem
    simp only [if_true, reduceCtorEq, if_false] at hcount
    change b.free + (b.granted.erase ticket).length + _ = _
    omega
  · have hcount := count_set hplace .inside (.inLine t)
    have htickets := hs.tickets_count t
    have hpos := List.count_pos_iff.mpr hmem
    simp only [reduceCtorEq, if_false, Nat.add_zero, Standing.inLine.injEq] at hcount
    simp only [List.count_append, List.count_erase, beq_iff_eq] at htickets ⊢
    split_ifs at hcount with hsame
    · subst hsame
      rw [if_pos rfl]
      omega
    · rw [if_neg hsame]
      omega

/-- The slot of someone inside goes out with its holder. -/
theorem Sound.exit (hs : Sound total b l) (hplace : l[i]? = some .inside) :
    ∃ rest, total = rest + 1 ∧ Sound rest b (l.set i .outside) := by
  have hcount := count_set hplace .outside .inside
  simp only [if_true, reduceCtorEq, if_false, Nat.add_zero] at hcount
  refine ⟨_, ?_, { hs with slots_eq := rfl, tickets_count := fun t ↦ ?_ }⟩
  · have hslots := hs.slots_eq
    omega
  · have hcount := count_set hplace .outside (.inLine t)
    simp only [reduceCtorEq, if_false, Nat.add_zero] at hcount
    rw [hcount]
    exact hs.tickets_count t

/-- A slot comes back: to the first in line, or to nobody. -/
theorem Sound.release (hs : Sound total b l) : Sound (total + 1) b.release l := by
  have hslots := hs.slots_eq
  unfold Bulkhead.release
  split
  · rename_i hqueue
    refine { hs with slots_eq := ?_, queue_eq_nil := fun _ ↦ hqueue }
    change b.free + 1 + b.granted.length + _ = _
    omega
  · rename_i ticket rest hqueue
    have hmoved : (ticket :: b.granted ++ rest).Perm (b.granted ++ b.queue) := by
      rw [hqueue]
      exact List.perm_middle.symm
    have hsorted := hs.queue_sorted
    rw [hqueue, List.pairwise_cons] at hsorted
    refine
      { hs with
        slots_eq := ?_
        tickets_count := fun t ↦ (hmoved.count_eq t).trans (hs.tickets_count t)
        tickets_nodup := hmoved.nodup_iff.mpr hs.tickets_nodup
        granted_first := ?_
        queue_sorted := hsorted.2
        ticket_lt := fun t hmem ↦ hs.ticket_lt t (hmoved.mem_iff.mp hmem)
        queue_eq_nil := fun hfree ↦ absurd (hs.queue_eq_nil hfree) (by simp [hqueue]) }
    · change b.free + (b.granted.length + 1) + _ = _
      omega
    · intro t hgranted u hrest
      rcases List.mem_cons.mp hgranted with rfl | hgranted
      · exact hsorted.1 u hrest
      · exact hs.granted_first t hgranted u (by simp [hqueue, hrest])

theorem Sound.leave (hs : Sound total b l) (hplace : l[i]? = some .inside) :
    Sound total b.release (l.set i .outside) := by
  obtain ⟨rest, rfl, hexit⟩ := hs.exit hplace
  exact hexit.release

/-- Someone to whom no slot was granted gets out of the line. -/
theorem Sound.giveUp {ticket : ℕ} (hs : Sound total b l)
    (hplace : l[i]? = some (.inLine ticket)) (hgranted : ticket ∉ b.granted) :
    Sound total { b with queue := b.queue.erase ticket } (l.set i .outside) := by
  have hsublist : (b.granted ++ b.queue.erase ticket).Sublist (b.granted ++ b.queue) :=
    List.erase_sublist.append_left _
  refine
    { hs with
      slots_eq := ?_
      tickets_count := fun t ↦ ?_
      tickets_nodup := hs.tickets_nodup.sublist hsublist
      granted_first := fun t ht u hu ↦ hs.granted_first t ht u (List.mem_of_mem_erase hu)
      queue_sorted := hs.queue_sorted.sublist List.erase_sublist
      ticket_lt := fun t hmem ↦ hs.ticket_lt t (hsublist.subset hmem)
      queue_eq_nil := fun hfree ↦ by
        change b.queue.erase ticket = []
        rw [hs.queue_eq_nil hfree, List.erase_nil] }
  · have hcount := count_set hplace .outside .inside
    simp only [reduceCtorEq, if_false, Nat.add_zero] at hcount
    rw [hcount]
    exact hs.slots_eq
  · have hcount := count_set hplace .outside (.inLine t)
    have htickets := hs.tickets_count t
    simp only [reduceCtorEq, if_false, Nat.add_zero, Standing.inLine.injEq] at hcount
    simp only [List.count_append, List.count_erase, beq_iff_eq] at htickets ⊢
    split_ifs at hcount with hsame
    · subst hsame
      have hzero := List.count_eq_zero.mpr hgranted
      rw [if_pos rfl]
      omega
    · rw [if_neg hsame]
      omega

/-- Someone in line gives up; a slot that was granted already comes back. -/
theorem Sound.abandon {ticket : ℕ} (hs : Sound total b l)
    (hplace : l[i]? = some (.inLine ticket)) :
    Sound total (b.abandon ticket) (l.set i .outside) := by
  unfold Bulkhead.abandon
  split
  · rename_i b' hclaim
    have hclaimed := hs.claim hplace hclaim
    obtain ⟨hlt, -⟩ := List.getElem?_eq_some_iff.mp hplace
    have hinside : (l.set i .inside)[i]? = some .inside := List.getElem?_set_self hlt
    simpa using hclaimed.leave hinside
  · rename_i hclaim
    refine hs.giveUp hplace fun hmem ↦ ?_
    simp [claim?, hmem] at hclaim

/-- Whoever changes place, the slots and the line stay in order. -/
theorem Sound.pass {y : Standing} (hs : Sound total b l) (hplace : l[i]? = some x)
    (hpass : Passage b x b' y) : Sound total b' (l.set i y) := by
  cases hpass with
  | stays x =>
    obtain ⟨hlt, rfl⟩ := List.getElem?_eq_some_iff.mp hplace
    rwa [List.set_getElem_self]
  | takes htake => exact hs.take hplace htake
  | queues htake => exact hs.enqueue hplace htake
  | claims hclaim => exact hs.claim hplace hclaim
  | abandons ticket => exact hs.abandon hplace
  | leaves => exact hs.leave hplace

/-- While nobody has or wants a slot, all of them are free. -/
theorem Sound.free_eq (hs : Sound total b l) (hout : ∀ x ∈ l, x = .outside) :
    b.free = total ∧ b.granted = [] ∧ b.queue = [] := by
  have hzero : ∀ y : Standing, y ≠ .outside → l.count y = 0 := fun y hne ↦
    List.count_eq_zero.mpr fun hmem ↦ hne (hout y hmem)
  have htickets : b.granted ++ b.queue = [] := by
    refine List.eq_nil_iff_forall_not_mem.mpr fun t hmem ↦ ?_
    have hcount := hs.tickets_count t
    rw [hzero _ (by simp)] at hcount
    exact List.count_eq_zero.mp hcount hmem
  obtain ⟨hgranted, hqueue⟩ := List.append_eq_nil_iff.mp htickets
  have hslots := hs.slots_eq
  rw [hzero _ (by simp), hgranted] at hslots
  exact ⟨hslots, hgranted, hqueue⟩

end Bulkhead

/-! ### Waits for a slot -/

namespace SlotWait

open Bulkhead (Passage)

/-- Where someone stands who waits. -/
def standing : SlotWait → Standing
  | .begun => .outside
  | .inLine ticket _ => .inLine ticket

/-- Where someone stands after a move of a wait. -/
def standingAfter : Turn SlotWait Bool → Standing
  | .going w => w.standing
  | .done granted => if granted then .inside else .outside

variable {m : Moment} {w : SlotWait} {b : Bulkhead}

theorem passage_of_step {next : Turn SlotWait Bool × Bulkhead} (h : w.step m b = some next) :
    Passage b w.standing next.2 (standingAfter next.1) := by
  cases w with
  | begun =>
    simp only [step] at h
    split at h
    · rename_i b' htake
      obtain rfl := Option.some.inj h
      exact .takes htake
    · rename_i htake
      split_ifs at h <;> obtain rfl := Option.some.inj h
      · exact .stays _
      · exact .queues htake
  | inLine ticket deadline =>
    simp only [step] at h
    split at h
    · rename_i b' hclaim
      obtain rfl := Option.some.inj h
      exact .claims hclaim
    · split_ifs at h
      obtain rfl := Option.some.inj h
      exact .abandons ticket

theorem passage_of_cancel : Passage b w.standing (w.cancel b) .outside := by
  cases w with
  | begun => exact .stays _
  | inLine ticket deadline => exact .abandons ticket

end SlotWait

end Courier

import Courier.DeadLetter.Store
import Mathlib.Data.List.Forall2
import Mathlib.Data.List.Nodup
import Mathlib.Tactic.SplitIfs

/-!
# Dead letters in memory

A store in memory never fails. `find?_put` says which entry is found under an identifier after one
was put into the store, and `put_forall₂` that all others stay where and what they are; no
identifier comes twice (`nodup_ids_put`). `transition_cases` is what moving an entry from state to
state can come to: there is none, it is in another state, or it is moved. The entries in a state are
listed by the time of their creation and the identifier (`inStatus_pairwise`).
-/

set_option autoImplicit false
set_option relaxedAutoImplicit false

namespace Courier

/-- An entry that was moved to a state. -/
def DeadLetter.moved (e : DeadLetter) (status : DeadLetterStatus) (now : Timestamp) : DeadLetter :=
  { e with status, updatedAt := now }

/-! ### The order of entries -/

namespace DeadLetter

theorem comesBefore_iff {a b : DeadLetter} :
    a.comesBefore b = true ↔
      a.createdAt.seconds < b.createdAt.seconds ∨
        a.createdAt.seconds = b.createdAt.seconds ∧
          (a.createdAt.nanos < b.createdAt.nanos ∨
            a.createdAt.nanos = b.createdAt.nanos ∧ a.id.value ≤ b.id.value) := by
  have hsame : a.createdAt = b.createdAt ↔ a.createdAt.seconds = b.createdAt.seconds ∧
      a.createdAt.nanos = b.createdAt.nanos := by
    obtain ⟨_, _, _, _, _, _, _, _, _, ⟨_, _⟩, _⟩ := a
    obtain ⟨_, _, _, _, _, _, _, _, _, ⟨_, _⟩, _⟩ := b
    simp
  simp only [comesBefore, Timestamp.before, Bool.or_eq_true, Bool.and_eq_true, decide_eq_true_eq,
    hsame]
  omega

theorem comesBefore_trans (a b c : DeadLetter) (hab : a.comesBefore b = true)
    (hbc : b.comesBefore c = true) : a.comesBefore c = true := by
  rw [comesBefore_iff] at *
  omega

theorem comesBefore_total (a b : DeadLetter) : (a.comesBefore b || b.comesBefore a) = true := by
  rw [Bool.or_eq_true, comesBefore_iff, comesBefore_iff]
  omega

end DeadLetter

namespace DeadLetterStore

/-- The store after an entry was moved to a state. -/
def withMoved (s : DeadLetterStore) (e : DeadLetter) (status : DeadLetterStatus)
    (now : Timestamp) : DeadLetterStore :=
  { s with entries := put (e.moved status now) s.entries }

/-- The state of the entry of an identifier. -/
def status? (s : DeadLetterStore) (id : EntryId) : Option DeadLetterStatus :=
  (s.get? id).map DeadLetter.status

/-! ### Putting an entry -/

theorem find?_put (e : DeadLetter) (entries : List DeadLetter) (id : EntryId) :
    (put e entries).find? (fun d ↦ d.id = id) =
      if id = e.id then some e else entries.find? fun d ↦ d.id = id := by
  induction entries with
  | nil =>
    by_cases hid : id = e.id
    · simp [put, hid]
    · simp [put, hid, Ne.symm hid]
  | cons d rest ih =>
    by_cases hd : d.id = e.id
    · by_cases hid : id = e.id
      · simp [put, hd, hid]
      · simp [put, hd, hid, Ne.symm hid]
    · by_cases hid : d.id = id
      · have hne : id ≠ e.id := hid ▸ hd
        simp [put, hid, hne]
      · simp [put, hd, hid, ih]

/-- The store after an entry was put into it. -/
def holding (s : DeadLetterStore) (e : DeadLetter) : DeadLetterStore :=
  { s with entries := put e s.entries }

theorem get?_holding (s : DeadLetterStore) (e : DeadLetter) (id : EntryId) :
    (s.holding e).get? id = if id = e.id then some e else s.get? id :=
  find?_put e s.entries id

/-- Whatever holds of each entry and itself, and of the one found and the one put in its place,
holds of the entries before and after. -/
theorem put_forall₂ {R : DeadLetter → DeadLetter → Prop} (hrefl : ∀ d, R d d)
    {entries : List DeadLetter} {d e : DeadLetter}
    (hfind : entries.find? (fun d ↦ d.id = e.id) = some d) (hput : R d e) :
    List.Forall₂ R entries (put e entries) := by
  induction entries with
  | nil => simp at hfind
  | cons first rest ih =>
    by_cases hid : first.id = e.id
    · rw [List.find?_cons_of_pos (by simpa using hid)] at hfind
      obtain rfl := Option.some.inj hfind
      rw [put, if_pos hid]
      exact .cons hput (List.forall₂_same.mpr fun d _ ↦ hrefl d)
    · rw [List.find?_cons_of_neg (by simpa using hid)] at hfind
      rw [put, if_neg hid]
      exact .cons (hrefl first) (ih hfind)

/-- An entry comes into the place of the one with its identifier, or to the end. -/
theorem ids_put (e : DeadLetter) (entries : List DeadLetter) :
    (put e entries).map DeadLetter.id =
      if e.id ∈ entries.map DeadLetter.id then entries.map DeadLetter.id
      else entries.map DeadLetter.id ++ [e.id] := by
  induction entries with
  | nil => simp [put]
  | cons first rest ih =>
    by_cases hid : first.id = e.id
    · simp [put, hid]
    · rw [put, if_neg hid, List.map_cons, List.map_cons, ih, apply_ite (List.cons first.id)]
      simp only [List.mem_cons, Ne.symm hid, false_or, List.cons_append]

/-- No identifier comes twice, also after an entry was put into a store. -/
theorem nodup_ids_put {entries : List DeadLetter} (hids : (entries.map DeadLetter.id).Nodup)
    (e : DeadLetter) : ((put e entries).map DeadLetter.id).Nodup := by
  rw [ids_put]
  split_ifs with hmem
  · exact hids
  · rw [← List.concat_eq_append]
    exact hids.concat hmem

/-! ### Moving, storing and listing -/

variable {s : DeadLetterStore} {id : EntryId} {e : DeadLetter}

theorem id_of_get? (h : s.get? id = some e) : e.id = id := by
  simpa using List.find?_some h

theorem status?_of_get? (h : s.get? id = some e) : s.status? id = some e.status := by
  rw [status?, h, Option.map_some]

/-- Moving an entry changes it and no other. -/
theorem get?_withMoved (h : s.get? id = some e) (target : DeadLetterStatus) (now : Timestamp)
    (other : EntryId) :
    (s.withMoved e target now).get? other =
      if other = id then some (e.moved target now) else s.get? other := by
  rw [← id_of_get? h]
  exact get?_holding s (e.moved target now) other

/-- Moving an entry changes its state and that of no other. -/
theorem status?_withMoved (h : s.get? id = some e) (target : DeadLetterStatus) (now : Timestamp)
    (other : EntryId) :
    (s.withMoved e target now).status? other =
      if other = id then some target else s.status? other := by
  rw [status?, get?_withMoved h, status?]
  split_ifs <;> rfl

/-- Moving an entry leaves the identifiers as they are. -/
theorem ids_withMoved (h : s.get? id = some e) (target : DeadLetterStatus) (now : Timestamp) :
    (s.withMoved e target now).entries.map DeadLetter.id = s.entries.map DeadLetter.id :=
  (ids_put ..).trans (if_pos (List.mem_map_of_mem (List.mem_of_find?_eq_some h)))

/-- Moving an entry in memory: there is none, it is in a state from which it is not to be moved, or
it is moved. Only the last changes the store. -/
theorem transition_cases (hmemory : s.faults = {}) (id : EntryId)
    (sources : List DeadLetterStatus) (target : DeadLetterStatus) (now : Timestamp) :
    (s.get? id = none ∧ s.transition id sources target now = (.error (.notFound id), s)) ∨
    (∃ e, s.get? id = some e ∧ e.status ∉ sources ∧
      s.transition id sources target now =
        (.error (.invalidTransition id e.status target), s)) ∨
    ∃ e, s.get? id = some e ∧ e.status ∈ sources ∧
      s.transition id sources target now =
        (.ok (e.moved target now), s.withMoved e target now) := by
  have hmove : s.transition id sources target now = s.move id sources target now := by
    obtain ⟨entries, faults⟩ := s
    obtain rfl : faults = {} := hmemory
    by_cases htarget : target = .processing <;> simp [transition, htarget, nextFault]
  rw [hmove, move]
  cases hget : s.get? id with
  | none => exact .inl ⟨rfl, rfl⟩
  | some e =>
    by_cases hsource : e.status ∈ sources
    · exact .inr (.inr ⟨e, rfl, hsource, by simp [hsource, withMoved, DeadLetter.moved]⟩)
    · exact .inr (.inl ⟨e, rfl, hsource, by simp [hsource]⟩)

/-- Storing an entry in memory works. -/
theorem store_eq (hmemory : s.faults = {}) (e : DeadLetter) :
    s.store e = (.ok e.id, s.holding e) := by
  obtain ⟨entries, faults⟩ := s
  obtain rfl : faults = {} := hmemory
  rfl

/-- Looking for entries in memory leaves the store as it is. -/
theorem list_eq (hmemory : s.faults = {}) (status : DeadLetterStatus) :
    s.list status = (.ok (s.inStatus status), s) := by
  obtain ⟨entries, faults⟩ := s
  obtain rfl : faults = {} := hmemory
  rfl

/-- Looking for entries leaves them as they are, also if it fails. -/
theorem list_entries (s : DeadLetterStore) (status : DeadLetterStatus) :
    (s.list status).2.entries = s.entries := by
  simp only [list]
  split <;> rfl

/-! ### The entries in a state -/

variable {status : DeadLetterStatus}

theorem inStatus_perm (s : DeadLetterStore) (status : DeadLetterStatus) :
    (s.inStatus status).Perm (s.entries.filter fun e ↦ e.status = status) :=
  List.mergeSort_perm _ _

/-- The oldest entries come first. -/
theorem inStatus_pairwise (s : DeadLetterStore) (status : DeadLetterStatus) :
    (s.inStatus status).Pairwise fun e e' ↦ e.comesBefore e' = true :=
  List.pairwise_mergeSort DeadLetter.comesBefore_trans DeadLetter.comesBefore_total _

theorem length_inStatus (s : DeadLetterStore) (status : DeadLetterStatus) :
    (s.inStatus status).length = s.count status := by
  rw [(inStatus_perm s status).length_eq, count, List.countP_eq_length_filter]

theorem mem_inStatus : e ∈ s.inStatus status ↔ e ∈ s.entries ∧ e.status = status := by
  rw [(inStatus_perm s status).mem_iff, List.mem_filter, decide_eq_true_eq]

theorem nodup_ids_inStatus (hids : (s.entries.map DeadLetter.id).Nodup) :
    ((s.inStatus status).map DeadLetter.id).Nodup :=
  ((inStatus_perm s status).map DeadLetter.id).nodup_iff.mpr
    (hids.sublist (List.filter_sublist.map DeadLetter.id))

/-- If no identifier comes twice, every entry is found under its own. -/
theorem find?_of_mem {entries : List DeadLetter} (hids : (entries.map DeadLetter.id).Nodup)
    (he : e ∈ entries) : entries.find? (fun d ↦ d.id = e.id) = some e := by
  induction entries with
  | nil => simp at he
  | cons first rest ih =>
    rw [List.map_cons, List.nodup_cons] at hids
    obtain rfl | he := List.mem_cons.mp he
    · exact List.find?_cons_of_pos (by simp)
    · have hne : first.id ≠ e.id := fun heq ↦ hids.1 (heq ▸ List.mem_map_of_mem he)
      rw [List.find?_cons_of_neg (by simpa using hne)]
      exact ih hids.2 he

theorem status?_of_mem_inStatus (hids : (s.entries.map DeadLetter.id).Nodup)
    (he : e ∈ s.inStatus status) : s.status? e.id = some status := by
  obtain ⟨hmem, rfl⟩ := mem_inStatus.mp he
  exact status?_of_get? (find?_of_mem hids hmem)

end DeadLetterStore

end Courier

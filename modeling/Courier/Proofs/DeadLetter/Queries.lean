import Courier.Proofs.DeadLetter.Store
import Mathlib.Data.Prod.Lex
import Mathlib.Data.Set.Card

/-!
# What a store in memory tells of its entries

A store is asked for one entry, for the entries in a state, for how many these are, for the numbers
in all states and for the number of all entries. The answers agree, whatever was stored and moved
before (`StoreChange.queries_agree`). What they agree on is what is found under each identifier: the
entry that was stored under it last, in the state to which it has been moved since.

`StoreChange.Tells` is what each change keeps: no identifier comes twice, and under each of them is
the entry last stored. Everything else is read off it.
-/

set_option autoImplicit false
set_option relaxedAutoImplicit false

namespace Courier

namespace DeadLetter

/-- One entry is another, but for its state and the time at which it came into it. -/
def Keeps (stored e : DeadLetter) : Prop :=
  e = { stored with status := e.status, updatedAt := e.updatedAt }

theorem Keeps.refl (e : DeadLetter) : Keeps e e := rfl

theorem Keeps.moved {stored e : DeadLetter} (h : Keeps stored e) (status : DeadLetterStatus)
    (now : Timestamp) : Keeps stored (e.moved status now) := by
  rw [Keeps, DeadLetter.moved] at *
  rw [h]

/-- By what entries are put in order: the time of their creation, and then the identifier. -/
def rank (e : DeadLetter) : ℤ ×ₗ ℕ ×ₗ ℕ :=
  toLex (e.createdAt.seconds, toLex (e.createdAt.nanos, e.id.value))

theorem comesBefore_iff_rank {a b : DeadLetter} : a.comesBefore b = true ↔ a.rank ≤ b.rank := by
  rw [comesBefore_iff, rank, rank, Prod.Lex.toLex_le_toLex, Prod.Lex.toLex_le_toLex]

/-- Entries of equal rank have the same identifier. -/
theorem id_eq_of_rank {a b : DeadLetter} (h : a.rank = b.rank) : a.id = b.id := by
  have hvalue : a.id.value = b.id.value :=
    congrArg (fun r : ℤ ×ₗ ℕ ×ₗ ℕ ↦ (ofLex (ofLex r).2).2) h
  exact EntryId.mk.injEq .. ▸ hvalue

end DeadLetter

namespace DeadLetterStore

/-- What the listing of a state comes to: all entries of that state that are found under their
identifiers, each once, by the time of their creation and the identifier, and as many as are
counted. -/
structure Lists (s : DeadLetterStore) (status : DeadLetterStatus) (listed : List DeadLetter) :
    Prop where
  answer : s.list status = (.ok listed, s)
  mem : ∀ e, e ∈ listed ↔ s.get? e.id = some e ∧ e.status = status
  once : (listed.map DeadLetter.id).Nodup
  ordered : listed.Pairwise fun e e' ↦ e.rank < e'.rank
  count : s.count status = listed.length

/-- What the counts come to: there is one for each state, and together they are the number of
entries, which is that of the identifiers under which there is one. -/
structure Counts (s : DeadLetterStore) : Prop where
  states : s.counts.map Prod.fst = [.pending, .processing, .resolved, .abandoned]
  each : ∀ c ∈ s.counts, c.2 = s.count c.1
  sum : (s.counts.map Prod.snd).sum = s.size
  size : {id | (s.get? id).isSome}.ncard = s.size

/-- What a move comes to: it succeeds if there is an entry in one of the states from which it is to
be moved, gives this entry in its new state and changes no other, or else changes nothing. -/
structure Moves (s : DeadLetterStore) (id : EntryId) (sources : List DeadLetterStatus)
    (target : DeadLetterStatus) (now : Timestamp) : Prop where
  succeeds_iff : (∃ e, (s.transition id sources target now).1 = .ok e) ↔
    ∃ e, s.get? id = some e ∧ e.status ∈ sources
  of_ok : ∀ e', (s.transition id sources target now).1 = .ok e' →
    (∃ e, s.get? id = some e ∧ e' = e.moved target now) ∧
      ∀ other, (s.transition id sources target now).2.get? other =
        if other = id then some e' else s.get? other
  of_error : ∀ error, (s.transition id sources target now).1 = .error error →
    (s.transition id sources target now).2 = s

variable {s : DeadLetterStore}

/-- If no identifier comes twice, the entries are those found under their identifiers. -/
theorem mem_entries_iff (hids : (s.entries.map DeadLetter.id).Nodup) {e : DeadLetter} :
    e ∈ s.entries ↔ s.get? e.id = some e :=
  ⟨find?_of_mem hids, List.mem_of_find?_eq_some⟩

theorem isSome_get?_iff {id : EntryId} :
    (s.get? id).isSome ↔ id ∈ s.entries.map DeadLetter.id := by
  simp [get?, List.find?_isSome, List.mem_map]

theorem lists (hmemory : s.faults = {}) (hids : (s.entries.map DeadLetter.id).Nodup)
    (status : DeadLetterStatus) : s.Lists status (s.inStatus status) where
  answer := list_eq hmemory status
  mem e := by rw [mem_inStatus, mem_entries_iff hids]
  once := nodup_ids_inStatus hids
  ordered := by
    have hne : (s.inStatus status).Pairwise fun e e' ↦ e.id ≠ e'.id :=
      List.pairwise_map.mp (nodup_ids_inStatus hids)
    refine ((inStatus_pairwise s status).and hne).imp fun h ↦ ?_
    exact lt_of_le_of_ne (DeadLetter.comesBefore_iff_rank.mp h.1)
      fun heq ↦ h.2 (DeadLetter.id_eq_of_rank heq)
  count := (length_inStatus s status).symm

/-- Every entry is in one of the four states. -/
theorem sum_counts (entries : List DeadLetter) :
    (DeadLetterStatus.all.map fun status ↦ entries.countP fun e ↦ e.status = status).sum =
      entries.length := by
  induction entries with
  | nil => rfl
  | cons e rest ih =>
    simp only [DeadLetterStatus.all, List.map_cons, List.map_nil, List.sum_cons, List.sum_nil,
      List.countP_cons, List.length_cons] at ih ⊢
    cases e.status <;> simp <;> omega

theorem counts_tell (hids : (s.entries.map DeadLetter.id).Nodup) : s.Counts where
  states := rfl
  each := by simp [counts]
  sum := by
    rw [counts, List.map_map]
    exact sum_counts s.entries
  size := by
    have hset : {id | (s.get? id).isSome} = ↑(s.entries.map DeadLetter.id).toFinset := by
      ext id
      simp only [Set.mem_ofPred_eq, isSome_get?_iff, List.coe_toFinset]
    rw [hset, Set.ncard_coe_finset, List.toFinset_card_of_nodup hids, List.length_map, size]

theorem moves (hmemory : s.faults = {}) (id : EntryId) (sources : List DeadLetterStatus)
    (target : DeadLetterStatus) (now : Timestamp) : s.Moves id sources target now := by
  obtain ⟨hget, htransition⟩ | ⟨e, hget, hsource, htransition⟩ | ⟨e, hget, hsource, htransition⟩ :=
    transition_cases hmemory id sources target now
  · constructor <;> simp [htransition, hget]
  · constructor <;> simp [htransition, hget, hsource]
  · constructor
    · simp [htransition, hget, hsource]
    · intro e' hok
      obtain rfl : e.moved target now = e' := by simpa [htransition] using hok
      refine ⟨⟨e, hget, rfl⟩, fun other ↦ ?_⟩
      rw [htransition, get?_withMoved hget]
    · simp [htransition]

end DeadLetterStore

/-- A change of a store: an entry is stored, or one is to be moved. -/
inductive StoreChange where
  | store (e : DeadLetter)
  | transition (id : EntryId) (sources : List DeadLetterStatus) (target : DeadLetterStatus)
      (now : Timestamp)

namespace StoreChange

/-- The store after a change. -/
def apply (s : DeadLetterStore) : StoreChange → DeadLetterStore
  | store e => (s.store e).2
  | transition id sources target now => (s.transition id sources target now).2

/-- An empty store in memory after some changes. -/
def run (changes : List StoreChange) : DeadLetterStore := changes.foldl apply {}

/-- What a change stores under an identifier. -/
def storedAs? (id : EntryId) : StoreChange → Option DeadLetter
  | store e => if e.id = id then some e else none
  | transition .. => none

/-- What was stored last under an identifier. -/
def lastStored? (changes : List StoreChange) (id : EntryId) : Option DeadLetter :=
  (changes.filterMap (storedAs? id)).getLast?

theorem run_concat (changes : List StoreChange) (change : StoreChange) :
    run (changes ++ [change]) = apply (run changes) change := List.foldl_concat ..

theorem lastStored?_concat (changes : List StoreChange) (change : StoreChange) (id : EntryId) :
    lastStored? (changes ++ [change]) id = (change.storedAs? id).or (lastStored? changes id) := by
  rw [lastStored?, List.filterMap_append, List.getLast?_append]
  cases hchange : change.storedAs? id <;> simp [hchange, lastStored?]

/-! ### What changes keep -/

/-- A store that works, in which no identifier comes twice and under each of them is the entry last
stored. -/
structure Tells (changes : List StoreChange) (s : DeadLetterStore) : Prop where
  memory : s.faults = {}
  ids : (s.entries.map DeadLetter.id).Nodup
  kept : ∀ id, Option.Rel DeadLetter.Keeps (lastStored? changes id) (s.get? id)

variable {changes : List StoreChange} {s : DeadLetterStore}

theorem Tells.store (h : Tells changes s) (e : DeadLetter) :
    Tells (changes ++ [.store e]) (s.store e).2 := by
  rw [DeadLetterStore.store_eq h.memory]
  refine ⟨h.memory, DeadLetterStore.nodup_ids_put h.ids e, fun id ↦ ?_⟩
  rw [lastStored?_concat, DeadLetterStore.get?_holding, storedAs?]
  by_cases hid : e.id = id
  · rw [if_pos hid, if_pos hid.symm]
    exact .some (.refl e)
  · rw [if_neg hid, if_neg (Ne.symm hid)]
    exact h.kept id

theorem Tells.transition (h : Tells changes s) (id : EntryId) (sources : List DeadLetterStatus)
    (target : DeadLetterStatus) (now : Timestamp) :
    Tells (changes ++ [.transition id sources target now])
      (s.transition id sources target now).2 := by
  have hlast : lastStored? (changes ++ [.transition id sources target now]) = lastStored? changes :=
    funext fun other ↦ lastStored?_concat ..
  obtain ⟨-, htransition⟩ | ⟨e, -, -, htransition⟩ | ⟨e, hget, -, htransition⟩ :=
    DeadLetterStore.transition_cases h.memory id sources target now
  · rw [htransition]
    exact ⟨h.memory, h.ids, hlast ▸ h.kept⟩
  · rw [htransition]
    exact ⟨h.memory, h.ids, hlast ▸ h.kept⟩
  · rw [htransition]
    refine ⟨h.memory, (DeadLetterStore.ids_withMoved hget target now).symm ▸ h.ids,
      fun other ↦ ?_⟩
    have hkept := h.kept other
    rw [hlast, DeadLetterStore.get?_withMoved hget]
    split_ifs with hsame
    · rw [hsame, hget] at hkept
      rw [hsame]
      generalize lastStored? changes id = stored at hkept ⊢
      cases hkept with
      | some hkeeps => exact .some (hkeeps.moved target now)
    · exact hkept

theorem tells_run (changes : List StoreChange) : Tells changes (run changes) := by
  induction changes using List.reverseRecOn with
  | nil => exact ⟨rfl, List.nodup_nil, fun _ ↦ .none⟩
  | append_singleton changes change ih =>
    rw [run_concat]
    cases change with
    | store e => exact ih.store e
    | transition id sources target now => exact ih.transition id sources target now

/-- Whatever was stored and moved before, the answers of a store agree: under each identifier is the
entry last stored, but for its state and the time at which it came into it, and these are the
entries that are listed, counted and moved. -/
theorem queries_agree (changes : List StoreChange) :
    (∀ id, Option.Rel DeadLetter.Keeps (lastStored? changes id) ((run changes).get? id)) ∧
      (∀ status, ∃ listed, (run changes).Lists status listed) ∧
      (run changes).Counts ∧
      ∀ id sources target now, (run changes).Moves id sources target now := by
  have htells : Tells changes (run changes) := tells_run changes
  exact ⟨htells.kept, fun status ↦ ⟨_, DeadLetterStore.lists htells.memory htells.ids status⟩,
    DeadLetterStore.counts_tell htells.ids, DeadLetterStore.moves htells.memory⟩

end StoreChange

end Courier

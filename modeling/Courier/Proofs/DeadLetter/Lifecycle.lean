import Courier.Proofs.Counting
import Courier.Proofs.DeadLetter.Replay
import Courier.Proofs.Gateway.Session

/-!
# The life of a dead letter

Any number of replays, alone or of all pending entries, may be under way at one time over a store in
memory. An entry is then in processing exactly while one replay of it is in flight, and never two
(`Session.Claimed`); its state goes from pending to processing and on to resolved or abandoned, and
nothing else of it changes (`DeadLetter.Follows`).

`Session.Claimed` is the invariant: it ties the states in the store to the replays in flight, the
claims on record to the entries that are still pending, and the outcome that a replay is about to
settle to what the gate answered. `Session.Claimed.step` shows that every move keeps it.
-/

set_option autoImplicit false
set_option relaxedAutoImplicit false

namespace Courier

/-! ### What is seen of replays -/

/-- The replay that a task is making. -/
def Gateway.Task.replay? : Gateway.Task → Option Replay
  | .replay t => some t
  | .replayAll (.replaying _ (some t) _) => some t
  | _ => none

/-- The task only replays dead letters. -/
def Gateway.Task.Replays : Gateway.Task → Prop
  | .replay _ | .replayAll _ | .ended (.replayed _) | .ended (.replayedAll _) => True
  | _ => False

/-- The replay has claimed an entry. -/
def Replay.holds (t : Replay) (id : EntryId) : Bool :=
  match t.phase with
  | .begun => false
  | _ => t.id = id

/-- The task is making a replay that has claimed an entry. -/
def Gateway.Task.holds (task : Gateway.Task) (id : EntryId) : Bool :=
  task.replay?.any fun t ↦ t.holds id

/-- Replays come, of one entry or of all that are pending, and their moves are noted. -/
def replays : Watch ReplayNote where
  comes task := (∃ id, task = .replay { id }) ∨ task = .replayAll .begun
  note _ task g := (task.replay?.map fun t ↦ t.notes g.depot).getD []

/-- The note of a claim. -/
def ReplayNote.isClaim (id : EntryId) : ReplayNote → Bool
  | .claimed other => other = id
  | _ => false

/-- The note of a payload that goes through the gate. -/
def ReplayNote.isExecution (id : EntryId) : ReplayNote → Bool
  | .executed other => other = id
  | _ => false

namespace Session

variable (s : Session ReplayNote) (id : EntryId)

/-- The dead letters. -/
def letters : DeadLetterStore := s.gateway.depot.letters

/-- The number of replays of an entry that are in flight. -/
def inFlight : ℕ := s.actors.countP fun a ↦ a.task.holds id

/-- How often an entry was claimed. -/
def claims : ℕ := s.notes.countP fun n ↦ n.2.isClaim id

/-- How often the payload of an entry went through the gate. -/
def executions : ℕ := s.notes.countP fun n ↦ n.2.isExecution id

/-- What was noted last of the actor at a place. -/
def latest (place : ℕ) : Option ReplayNote := (s.notes.find? fun n ↦ n.1 = place).map Prod.snd

end Session

/-! ### How entries change -/

/-- The moves from state to state; those that were abandoned may be claimed again if that is
allowed. -/
inductive DeadLetterStatus.Advances (allow : Bool) :
    DeadLetterStatus → DeadLetterStatus → Prop where
  | claim : Advances allow .pending .processing
  | reclaim (hallow : allow = true) : Advances allow .abandoned .processing
  | resolve : Advances allow .processing .resolved
  | abandon : Advances allow .processing .abandoned

/-- An entry and the same entry after a move: as it was, or in its next state. -/
def DeadLetter.Follows (allow : Bool) (e e' : DeadLetter) : Prop :=
  e' = e ∨ ∃ status now, DeadLetterStatus.Advances allow e.status status ∧ e' = e.moved status now

/-- The states from which an entry is claimed. -/
theorem Replay.advances_of_claimable {d : Depot} {status : DeadLetterStatus}
    (h : status ∈ Replay.claimable d) :
    DeadLetterStatus.Advances d.allowAbandoned status .processing := by
  rw [Replay.claimable] at h
  split at h
  · rename_i hallow
    obtain rfl | rfl : status = .pending ∨ status = .abandoned := by simpa using h
    · exact .claim
    · exact .reclaim hallow
  · obtain rfl : status = .pending := by simpa using h
    exact .claim

theorem Replay.ne_processing_of_claimable {d : Depot} {status : DeadLetterStatus}
    (h : status ∈ Replay.claimable d) : status ≠ .processing := by
  cases Replay.advances_of_claimable h <;> simp

theorem Replay.ne_resolved_of_claimable {d : Depot} {status : DeadLetterStatus}
    (h : status ∈ Replay.claimable d) : status ≠ .resolved := by
  cases Replay.advances_of_claimable h <;> simp

theorem Replay.eq_pending_of_claimable {d : Depot} {status : DeadLetterStatus}
    (hallow : d.allowAbandoned = false) (h : status ∈ Replay.claimable d) : status = .pending := by
  simpa [Replay.claimable, hallow] using h

theorem Replay.ne_processing_finalStatus (outcome : ReplayOutcome) :
    Replay.finalStatus outcome ≠ .processing := by
  cases outcome <;> simp [Replay.finalStatus]

theorem Replay.ne_pending_finalStatus (outcome : ReplayOutcome) :
    Replay.finalStatus outcome ≠ .pending := by
  cases outcome <;> simp [Replay.finalStatus]

theorem Replay.advances_finalStatus (allow : Bool) (outcome : ReplayOutcome) :
    DeadLetterStatus.Advances allow .processing (Replay.finalStatus outcome) := by
  cases outcome with
  | resolved attempts => exact .resolve
  | abandoned failure => exact .abandon

/-- In a store an entry is moved as it may be moved. -/
theorem DeadLetterStore.follows_withMoved {s : DeadLetterStore} {id : EntryId} {e : DeadLetter}
    {allow : Bool} {status : DeadLetterStatus} {now : Timestamp} (hget : s.get? id = some e)
    (hstatus : DeadLetterStatus.Advances allow e.status status) :
    List.Forall₂ (DeadLetter.Follows allow) s.entries (s.withMoved e status now).entries := by
  have hfind : s.entries.find? (fun d ↦ d.id = (e.moved status now).id) = some e := by
    rw [← hget, DeadLetterStore.get?, ← DeadLetterStore.id_of_get? hget]
    rfl
  exact DeadLetterStore.put_forall₂ (fun _ ↦ .inl rfl) hfind (.inr ⟨status, now, hstatus, rfl⟩)

/-! ### The moves of tasks that replay -/

/-- A move of a task that replays is the move of its replay, or only asks the store, if anything. -/
theorem Gateway.Task.replay_cases {run : Batch.DispatchStep} {task task' : Gateway.Task}
    {g g' : Gateway} (htask : task.Replays) (hstep : task.stepBy run g = some (task', g')) :
    task'.Replays ∧
      ((∃ t turn d, task.replay? = some t ∧ t.step g.depot = some (turn, d) ∧
          g' = g.withDepot d ∧ task'.replay? = turn.going?) ∨
        (∃ letters, g' = g.withDepot { g.depot with letters } ∧
          letters.entries = g.depot.letters.entries ∧
          (g.depot.letters.faults = {} → letters = g.depot.letters)) ∧
        task.replay? = none ∧ ∀ t, task'.replay? = some t → t.phase = .begun) := by
  cases task with
  | replay t =>
    obtain ⟨⟨turn, d⟩, hturn, heq⟩ := Option.map_eq_some_iff.mp hstep
    obtain ⟨rfl, rfl⟩ := Prod.mk.inj heq
    refine ⟨by cases turn <;> trivial, .inl ⟨t, turn, d, rfl, hturn, rfl, ?_⟩⟩
    cases turn <;> rfl
  | replayAll t =>
    obtain ⟨⟨turn, d⟩, hturn, heq⟩ := Option.map_eq_some_iff.mp hstep
    obtain ⟨rfl, rfl⟩ := Prod.mk.inj heq
    refine ⟨by cases turn <;> trivial, ?_⟩
    cases t with
    | begun =>
      rw [ReplayAll.step] at hturn
      split at hturn <;> obtain ⟨rfl, rfl⟩ := Prod.mk.inj (Option.some.inj hturn)
      all_goals
        rename_i letters hlist
        refine .inr ⟨⟨letters, rfl, ?_, fun hmemory ↦ ?_⟩, rfl,
          by simp [Gateway.Task.ofTurn, Gateway.Task.replay?]⟩
        · rw [← DeadLetterStore.list_entries g.depot.letters .pending, hlist]
        · rw [DeadLetterStore.list_eq hmemory] at hlist
          exact (Prod.mk.inj hlist).2.symm
    | replaying waiting current summary =>
      cases current with
      | none =>
        cases waiting <;> obtain ⟨rfl, rfl⟩ := Prod.mk.inj (Option.some.inj hturn)
        · exact .inr ⟨⟨_, rfl, rfl, fun _ ↦ rfl⟩, rfl,
            by simp [Gateway.Task.ofTurn, Gateway.Task.replay?]⟩
        · refine .inr ⟨⟨_, rfl, rfl, fun _ ↦ rfl⟩, rfl, fun t ht ↦ ?_⟩
          obtain rfl := Option.some.inj ht
          rfl
      | some t =>
        rw [ReplayAll.step] at hturn
        split at hturn
        · exact absurd hturn (by simp)
        · rename_i next after hnext
          obtain ⟨rfl, rfl⟩ := Prod.mk.inj (Option.some.inj hturn)
          exact .inl ⟨t, _, _, rfl, hnext, rfl, rfl⟩
        · rename_i result after hnext
          split at hturn <;> obtain ⟨rfl, rfl⟩ := Prod.mk.inj (Option.some.inj hturn)
          · exact .inl ⟨t, .done result, _, rfl, hnext, rfl, rfl⟩
          · exact .inl ⟨t, .done result, _, rfl, hnext, rfl, rfl⟩
  | ended result => exact absurd hstep (by simp [Gateway.Task.stepBy])
  | call | dispatch | submit | batch | shutdown | background | cancelBatchAt | shutdownAt =>
    exact htask.elim

/-- Over a store in memory a move that is not that of a replay leaves the gateway alone. -/
theorem Gateway.Task.replay_move {run : Batch.DispatchStep} {task task' : Gateway.Task}
    {g g' : Gateway} (hmemory : g.depot.letters.faults = {}) (htask : task.Replays)
    (hstep : task.stepBy run g = some (task', g')) :
    task'.Replays ∧
      ((∃ t turn d, task.replay? = some t ∧ t.step g.depot = some (turn, d) ∧
          g' = g.withDepot d ∧ task'.replay? = turn.going?) ∨
        g' = g ∧ task.replay? = none ∧ ∀ t, task'.replay? = some t → t.phase = .begun) := by
  obtain ⟨hreplays, hmove | ⟨⟨letters, rfl, -, hsame⟩, hidle⟩⟩ := replay_cases htask hstep
  · exact ⟨hreplays, .inl hmove⟩
  · rw [hsame hmemory]
    exact ⟨hreplays, .inr ⟨rfl, hidle⟩⟩

/-! ### What a move of a replay does -/

namespace Replay.Moved

variable {t : Replay} {d site : Depot} {turn : Turn Replay (Except StoreError ReplayOutcome)}
  {notes : List ReplayNote}

theorem faults (h : t.Moved d turn site notes) : site.letters.faults = d.letters.faults := by
  cases h with
  | missing | refused => rfl
  | called _ _ _ hletters | failed _ _ _ hletters | settled _ _ _ hletters =>
    rw [hletters, DeadLetterStore.withMoved]
  | calling _ hkeeps | answered _ _ hkeeps => rw [hkeeps.letters]

theorem allowAbandoned (h : t.Moved d turn site notes) :
    site.allowAbandoned = d.allowAbandoned := by
  cases h with
  | missing | refused => rfl
  | called _ _ _ _ hallow | failed _ _ _ _ hallow | settled _ _ _ _ hallow => exact hallow
  | calling _ hkeeps | answered _ _ hkeeps => exact hkeeps.allowAbandoned

/-- Entries follow their life. -/
theorem follows (h : t.Moved d turn site notes) :
    List.Forall₂ (DeadLetter.Follows d.allowAbandoned) d.letters.entries site.letters.entries := by
  have hsame : List.Forall₂ (DeadLetter.Follows d.allowAbandoned) d.letters.entries
      d.letters.entries := List.forall₂_same.mpr fun _ _ ↦ .inl rfl
  cases h with
  | missing | refused => exact hsame
  | called _ hget hstatus hletters | failed _ hget hstatus hletters =>
    rw [hletters]
    exact DeadLetterStore.follows_withMoved hget (advances_of_claimable hstatus)
  | settled _ hget hstatus hletters =>
    rw [hletters]
    exact DeadLetterStore.follows_withMoved hget (hstatus ▸ advances_finalStatus _ _)
  | calling _ hkeeps | answered _ _ hkeeps => rwa [hkeeps.letters]

/-- An entry enters processing with the replay that claims it and leaves it with the same. -/
theorem processing (h : t.Moved d turn site notes) (id : EntryId) :
    (if turn.going?.any (fun next ↦ next.holds id) then 1 else 0) +
        (if d.letters.status? id = some .processing then 1 else 0) =
      (if t.holds id then 1 else 0) +
        (if site.letters.status? id = some .processing then 1 else 0) := by
  cases h with
  | missing hphase | refused hphase =>
    rw [Replay.holds, hphase]
    rfl
  | called hphase hget hstatus hletters | failed hphase hget hstatus hletters =>
    have hbefore := DeadLetterStore.status?_of_get? hget
    have hne := ne_processing_of_claimable hstatus
    rw [hletters, DeadLetterStore.status?_withMoved hget]
    by_cases hid : id = t.id
    · simp [Turn.going?, Replay.holds, hphase, hid, hbefore, hne]
    · simp [Turn.going?, Replay.holds, hphase, hid, Ne.symm hid]
  | calling hphase hkeeps | answered hphase _ hkeeps =>
    simp [Turn.going?, Replay.holds, hphase, hkeeps.letters]
  | settled hphase hget hstatus hletters =>
    have hbefore := DeadLetterStore.status?_of_get? hget
    have hne := ne_processing_finalStatus
    rw [hletters, DeadLetterStore.status?_withMoved hget]
    by_cases hid : id = t.id
    · simp [Turn.going?, Replay.holds, hphase, hid, hbefore, hstatus, hne]
    · simp [Turn.going?, Replay.holds, hphase, hid, Ne.symm hid]

/-- Unless those that were abandoned may be claimed again, each claim takes one entry out of the
pending ones. -/
theorem pending (h : t.Moved d turn site notes) (hallow : d.allowAbandoned = false)
    (id : EntryId) :
    notes.countP (ReplayNote.isClaim id) +
        (if site.letters.status? id = some .pending then 1 else 0) =
      if d.letters.status? id = some .pending then 1 else 0 := by
  cases h with
  | missing | refused => exact Nat.zero_add _
  | called _ hget hstatus hletters | failed _ hget hstatus hletters =>
    have hbefore := DeadLetterStore.status?_of_get? hget
    have hpending := eq_pending_of_claimable hallow hstatus
    rw [hletters, DeadLetterStore.status?_withMoved hget]
    by_cases hid : id = t.id
    · simp [ReplayNote.isClaim, hid, hbefore, hpending]
    · simp [ReplayNote.isClaim, hid, Ne.symm hid]
  | calling _ hkeeps | answered _ _ hkeeps => simp [ReplayNote.isClaim, hkeeps.letters]
  | settled _ hget hstatus hletters =>
    have hbefore := DeadLetterStore.status?_of_get? hget
    have hne := ne_pending_finalStatus
    rw [hletters, DeadLetterStore.status?_withMoved hget]
    by_cases hid : id = t.id
    · simp [hid, hbefore, hstatus, hne]
    · simp [hid]

/-- A payload goes through the gate only with a claim. -/
theorem executions_le_claims (h : t.Moved d turn site notes) (id : EntryId) :
    notes.countP (ReplayNote.isExecution id) ≤ notes.countP (ReplayNote.isClaim id) := by
  cases h with
  | called => simp [ReplayNote.isExecution, ReplayNote.isClaim, List.countP_cons]
  | failed | answered => simp [ReplayNote.isExecution]
  | missing | refused | calling | settled => exact Nat.le_refl 0

/-- An entry that is resolved is not claimed and stays so. -/
theorem resolved (h : t.Moved d turn site notes) {id : EntryId}
    (hresolved : d.letters.status? id = some .resolved) :
    site.letters.status? id = some .resolved ∧ notes.countP (ReplayNote.isClaim id) = 0 := by
  cases h with
  | missing | refused => exact ⟨hresolved, rfl⟩
  | called _ hget hstatus hletters | failed _ hget hstatus hletters =>
    have hbefore := DeadLetterStore.status?_of_get? hget
    have hid : id ≠ t.id := by
      rintro rfl
      exact ne_resolved_of_claimable hstatus (Option.some.inj (hbefore.symm.trans hresolved))
    rw [hletters, DeadLetterStore.status?_withMoved hget, if_neg hid]
    exact ⟨hresolved, by simp [ReplayNote.isClaim, Ne.symm hid]⟩
  | calling _ hkeeps | answered _ _ hkeeps =>
    exact ⟨by rw [hkeeps.letters, hresolved], by simp [ReplayNote.isClaim]⟩
  | settled _ hget hstatus hletters =>
    have hbefore := DeadLetterStore.status?_of_get? hget
    have hid : id ≠ t.id := by
      rintro rfl
      simp [hbefore, hstatus] at hresolved
    rw [hletters, DeadLetterStore.status?_withMoved hget, if_neg hid]
    exact ⟨hresolved, rfl⟩

/-- A replay that is about to settle its entry has noted just now why: the gate delivered if and
only if the entry is to be resolved. -/
theorem answer {next : Replay} {outcome : ReplayOutcome} {attempt wake : ℕ}
    (h : t.Moved d (.going next) site notes)
    (hphase : next.phase = .settling outcome attempt wake) :
    ∃ note, notes.head? = some note ∧
      ∀ n, outcome = .resolved n ↔ ∃ r, note = .answered next.id (.ok (.delivered n r)) := by
  cases h with
  | called | calling => exact absurd hphase (by simp)
  | failed =>
    obtain ⟨rfl, -, -⟩ := Replay.Phase.settling.inj hphase
    exact ⟨_, rfl, by simp⟩
  | answered _ houtcome =>
    obtain ⟨rfl, -, -⟩ := Replay.Phase.settling.inj hphase
    exact ⟨_, rfl, by simpa using houtcome⟩

end Replay.Moved

/-! ### The invariant -/

namespace Session

/-- The replays in flight, the record and the store fit together. -/
structure Claimed (allow : Bool) (s : Session ReplayNote) : Prop where
  memory : s.letters.faults = {}
  quiet : s.gateway.plant.pool.fresh = []
  allows : s.gateway.depot.allowAbandoned = allow
  tasks : ∀ a ∈ s.actors, a.task.Replays
  flight : ∀ id, s.inFlight id = if s.letters.status? id = some .processing then 1 else 0
  once : allow = false → ∀ id,
    s.claims id + (if s.letters.status? id = some .pending then 1 else 0) ≤ 1
  executed : ∀ id, s.executions id ≤ s.claims id
  answer : ∀ place a t outcome attempt wake, s.actors[place]? = some a →
    a.task.replay? = some t → t.phase = .settling outcome attempt wake →
    ∀ n, outcome = .resolved n ↔ ∃ r, s.latest place = some (.answered t.id (.ok (.delivered n r)))

variable {s : Session ReplayNote} {place : ℕ} {a : Actor} {task : Gateway.Task} {g : Gateway}
  {notes : List ReplayNote} {allow : Bool}

theorem inFlight_turned (hactor : s.actors[place]? = some a) (task : Gateway.Task) (g : Gateway)
    (notes : List ReplayNote) (id : EntryId) :
    (s.turned place a task g notes).inFlight id +
        (if a.task.holds id then 1 else 0) =
      s.inFlight id + if task.holds id then 1 else 0 :=
  countP_set hactor (fun b ↦ b.task.holds id) { a with task }

theorem claims_turned (id : EntryId) :
    (s.turned place a task g notes).claims id =
      notes.countP (ReplayNote.isClaim id) + s.claims id := by
  rw [claims, turned, List.countP_append, List.countP_map]
  rfl

theorem executions_turned (id : EntryId) :
    (s.turned place a task g notes).executions id =
      notes.countP (ReplayNote.isExecution id) + s.executions id := by
  rw [executions, turned, List.countP_append, List.countP_map]
  rfl

theorem latest_turned_self {note : ReplayNote} (hnote : notes.head? = some note) :
    (s.turned place a task g notes).latest place = some note := by
  obtain ⟨rest, rfl⟩ := List.head?_eq_some_iff.mp hnote
  simp [latest, turned]

theorem latest_turned_of_ne {other : ℕ} (hne : other ≠ place) :
    (s.turned place a task g notes).latest other = s.latest other := by
  rw [latest, turned, List.find?_append]
  have hnone : (notes.map (Prod.mk place)).find? (fun n ↦ n.1 = other) = none := by
    simp [List.find?_eq_none, Ne.symm hne]
  rw [hnone]
  rfl

/-- A replay whose task does not wait for it to begin holds its entry in processing. -/
theorem Claimed.processing_of_actor {t : Replay} (h : s.Claimed allow)
    (hactor : s.actors[place]? = some a) (ht : a.task.replay? = some t)
    (hphase : t.phase ≠ .begun) :
    s.letters.status? t.id = some .processing := by
  have hholds : t.holds t.id = true := by
    rw [Replay.holds]
    split
    · rename_i hbegun
      exact absurd hbegun hphase
    · simp
  have hpos : 0 < s.inFlight t.id :=
    List.countP_pos_iff.mpr
      ⟨a, List.mem_of_getElem? hactor, by simp [Gateway.Task.holds, ht, hholds]⟩
  rw [h.flight] at hpos
  by_contra hstatus
  simp [hstatus] at hpos

/-- The move of a replay keeps the invariant. -/
theorem Claimed.turn {t : Replay} {turn : Turn Replay (Except StoreError ReplayOutcome)}
    {d : Depot} (h : s.Claimed allow) (hactor : s.actors[place]? = some a)
    (ht : a.task.replay? = some t) (hmoved : t.Moved s.gateway.depot turn d notes)
    (htask : task.Replays) (hnext : task.replay? = turn.going?) :
    (s.turned place a task (s.gateway.withDepot d) notes).Claimed allow where
  memory := hmoved.faults.trans h.memory
  quiet := h.quiet
  allows := hmoved.allowAbandoned.trans h.allows
  tasks b hb := by
    obtain hb | rfl := List.mem_or_eq_of_mem_set hb
    · exact h.tasks b hb
    · exact htask
  flight id := by
    have hcount := inFlight_turned hactor task (s.gateway.withDepot d) notes id
    have hprocessing := hmoved.processing id
    rw [Gateway.Task.holds, Gateway.Task.holds, ht, hnext, h.flight, Option.any_some] at hcount
    rw [letters] at hcount
    change _ = if d.letters.status? id = some .processing then 1 else 0
    omega
  once hallow id := by
    have hpending := hmoved.pending (h.allows.trans hallow) id
    have honce := h.once hallow id
    rw [letters] at honce
    rw [claims_turned]
    change _ + (if d.letters.status? id = some .pending then 1 else 0) ≤ 1
    omega
  executed id := by
    rw [claims_turned, executions_turned]
    exact Nat.add_le_add (hmoved.executions_le_claims id) (h.executed id)
  answer other b next outcome attempt wake hb hb' hphase := by
    by_cases hother : other = place
    · subst hother
      rw [turned, List.getElem?_set_self (List.getElem?_eq_some_iff.mp hactor).1] at hb
      obtain rfl := Option.some.inj hb
      cases turn with
      | done result => exact absurd (hb'.symm.trans hnext) (by simp [Turn.going?])
      | going t' =>
        obtain rfl : next = t' := Option.some.inj (hb'.symm.trans hnext)
        obtain ⟨note, hnote, houtcome⟩ := hmoved.answer hphase
        rw [latest_turned_self hnote]
        simpa using houtcome
    · rw [turned, List.getElem?_set_ne (Ne.symm hother)] at hb
      rw [latest_turned_of_ne hother]
      exact h.answer other b next outcome attempt wake hb hb' hphase

/-- A task whose replay has not begun, if it is making any, holds nothing. -/
theorem holds_of_begun (hbegun : ∀ t, task.replay? = some t → t.phase = .begun) (id : EntryId) :
    task.holds id = false := by
  rw [Gateway.Task.holds]
  cases ht : task.replay? with
  | none => rfl
  | some t => simp [Replay.holds, hbegun t ht]

/-- A move that is not the move of a replay keeps the invariant. -/
theorem Claimed.idle (h : s.Claimed allow) (hactor : s.actors[place]? = some a)
    (hnone : a.task.replay? = none) (htask : task.Replays)
    (hbegun : ∀ t, task.replay? = some t → t.phase = .begun) :
    (s.turned place a task s.gateway []).Claimed allow where
  memory := h.memory
  quiet := h.quiet
  allows := h.allows
  tasks b hb := by
    obtain hb | rfl := List.mem_or_eq_of_mem_set hb
    · exact h.tasks b hb
    · exact htask
  flight id := by
    have hcount := inFlight_turned hactor task s.gateway [] id
    rw [holds_of_begun hbegun, Gateway.Task.holds, hnone] at hcount
    exact hcount.trans (h.flight id)
  once := h.once
  executed := h.executed
  answer other b next outcome attempt wake hb hb' hphase := by
    by_cases hother : other = place
    · subst hother
      rw [turned, List.getElem?_set_self (List.getElem?_eq_some_iff.mp hactor).1] at hb
      obtain rfl := Option.some.inj hb
      exact absurd (hphase.symm.trans (hbegun next hb')) (by simp)
    · rw [turned, List.getElem?_set_ne (Ne.symm hother)] at hb
      exact h.answer other b next outcome attempt wake hb hb' hphase

/-- A task that comes only replays and has not begun. -/
theorem begun_of_comes (hcomes : replays.comes task) :
    task.Replays ∧ ∀ t, task.replay? = some t → t.phase = .begun := by
  obtain ⟨id, rfl⟩ | rfl := hcomes
  · refine ⟨trivial, fun t ht ↦ ?_⟩
    obtain rfl := Option.some.inj ht
    rfl
  · exact ⟨trivial, fun t ht ↦ absurd ht (by simp [Gateway.Task.replay?])⟩

/-- A task that comes holds nothing yet. -/
theorem inFlight_come (s : Session ReplayNote) (hcomes : replays.comes task) (id : EntryId) :
    inFlight { s with actors := s.actors ++ [.new task] } id = s.inFlight id := by
  rw [inFlight, List.countP_append, List.countP_singleton, Actor.new,
    holds_of_begun (begun_of_comes hcomes).2]
  rfl

/-- A task that comes keeps the invariant. -/
theorem Claimed.come (h : s.Claimed allow) (hcomes : replays.comes task) :
    Claimed allow { s with actors := s.actors ++ [.new task] } :=
  { h with
    tasks := fun b hb ↦ by
      obtain hb | hb := List.mem_append.mp hb
      · exact h.tasks b hb
      · obtain rfl := List.mem_singleton.mp hb
        exact (begun_of_comes hcomes).1
    flight := fun id ↦ (inFlight_come s hcomes id).trans (h.flight id)
    answer := fun place b next outcome attempt wake hb hb' hphase ↦ by
      by_cases hlt : place < s.actors.length
      · rw [List.getElem?_append_left hlt] at hb
        exact h.answer place b next outcome attempt wake hb hb' hphase
      · rw [List.getElem?_append_right (Nat.le_of_not_lt hlt), List.getElem?_singleton] at hb
        obtain ⟨-, hsome⟩ := Option.ite_none_right_eq_some.mp hb
        obtain rfl := Option.some.inj hsome
        exact absurd (hphase.symm.trans ((begun_of_comes hcomes).2 next hb')) (by simp) }

/-- Every move keeps the invariant. -/
theorem Claimed.step {s' : Session ReplayNote} (h : s.Claimed allow) (hmove : Move replays s s') :
    s'.Claimed allow := by
  cases hmove with
  | @turn place choice a task g hactor hstep =>
    obtain ⟨htask, ⟨t, turn, d, ht, hturn, rfl, hnext⟩ | ⟨rfl, hnone, hbegun⟩⟩ :=
      Gateway.Task.replay_move h.memory (h.tasks a (List.mem_of_getElem? hactor)) hstep
    · have hmoved := t.moved_of_step h.memory (h.processing_of_actor hactor ht) hturn
      have hnotes : replays.note choice a.task s.gateway = t.notes s.gateway.depot := by
        simp [replays, ht]
      rw [hnotes]
      exact h.turn hactor ht hmoved htask hnext
    · have hnotes : replays.note choice a.task s.gateway = [] := by simp [replays, hnone]
      rw [hnotes]
      exact h.idle hactor hnone htask hbegun
  | begin => rwa [begun_of_quiet h.quiet]
  | come hcomes => exact h.come hcomes
  | pass => exact { h with }

theorem Claimed.reaches {s' : Session ReplayNote} (h : s.Claimed allow)
    (hreaches : Reaches replays s s') : s'.Claimed allow :=
  hreaches.keeps (fun _ _ ↦ Claimed.step) h

/-! ### The life of an entry -/

/-- What a move does to the store and puts on record is what the move of one replay does. -/
theorem Claimed.effect {s' : Session ReplayNote} (h : s.Claimed allow)
    (hmove : Move replays s s') :
    (s'.letters = s.letters ∧ s'.notes = s.notes) ∨
      ∃ (t : Replay) (turn : Turn Replay (Except StoreError ReplayOutcome)) (d : Depot)
        (notes : List ReplayNote) (place : ℕ), t.Moved s.gateway.depot turn d notes ∧
        s'.letters = d.letters ∧ s'.notes = notes.map (Prod.mk place) ++ s.notes := by
  cases hmove with
  | @turn place choice a task g hactor hstep =>
    obtain ⟨-, ⟨t, turn, d, ht, hturn, rfl, -⟩ | ⟨rfl, hnone, -⟩⟩ :=
      Gateway.Task.replay_move h.memory (h.tasks a (List.mem_of_getElem? hactor)) hstep
    · have hmoved := t.moved_of_step h.memory (h.processing_of_actor hactor ht) hturn
      exact .inr ⟨t, turn, d, _, place, hmoved, rfl, by simp [turned, replays, ht]⟩
    · exact .inl ⟨rfl, by simp [turned, replays, hnone]⟩
  | begin | come | pass => exact .inl ⟨rfl, rfl⟩

theorem Claimed.follows {s' : Session ReplayNote} (h : s.Claimed allow)
    (hmove : Move replays s s') :
    List.Forall₂ (DeadLetter.Follows allow) s.letters.entries s'.letters.entries := by
  obtain ⟨hletters, -⟩ | ⟨t, turn, d, notes, place, hmoved, hletters, -⟩ := h.effect hmove
  · rw [hletters]
    exact List.forall₂_same.mpr fun _ _ ↦ .inl rfl
  · rw [hletters, ← h.allows]
    exact hmoved.follows

/-- A resolved entry stays resolved, is not claimed again and does not go through the gate again. -/
theorem Claimed.resolved {s' : Session ReplayNote} (h : s.Claimed allow) {id : EntryId}
    (hresolved : s.letters.status? id = some .resolved) (hreaches : Reaches replays s s') :
    s'.letters.status? id = some .resolved ∧ s'.claims id = s.claims id ∧
      s'.executions id = s.executions id := by
  induction hreaches with
  | refl => exact ⟨hresolved, rfl, rfl⟩
  | tail hbefore hlast ih =>
    obtain ⟨hstatus, hclaims, hexecutions⟩ := ih
    obtain ⟨hletters, hnotes⟩ | ⟨t, turn, d, notes, place, hmoved, hletters, hnotes⟩ :=
      (h.reaches hbefore).effect hlast
    · rw [claims, executions, hletters, hnotes]
      exact ⟨hstatus, hclaims, hexecutions⟩
    · obtain ⟨hstays, hnone⟩ := hmoved.resolved hstatus
      have hunsent := hmoved.executions_le_claims id
      rw [hnone, Nat.le_zero] at hunsent
      rw [claims, executions, hletters, hnotes, List.countP_append, List.countP_append,
        List.countP_map, List.countP_map]
      refine ⟨hstays, (Nat.add_eq_right.mpr hnone).trans hclaims, ?_⟩
      exact (Nat.add_eq_right.mpr hunsent).trans hexecutions

/-- A replay that ends well leaves its entry resolved or abandoned, and resolved if and only if the
gate delivered. -/
theorem Claimed.settled {t : Replay} {outcome : ReplayOutcome} {d : Depot} (h : s.Claimed allow)
    (hactor : s.actors[place]? = some a) (ht : a.task.replay? = some t)
    (hstep : t.step s.gateway.depot = some (.done (.ok outcome), d)) :
    d.letters.status? t.id = some (Replay.finalStatus outcome) ∧
      ∀ n, outcome = .resolved n ↔
        ∃ r, s.latest place = some (.answered t.id (.ok (.delivered n r))) := by
  have hmoved := t.moved_of_step h.memory (h.processing_of_actor hactor ht) hstep
  generalize t.notes s.gateway.depot = notes at hmoved
  cases hmoved with
  | settled hphase hget _ hletters =>
    refine ⟨?_, h.answer place a t _ _ _ hactor ht hphase⟩
    rw [hletters, DeadLetterStore.status?_withMoved hget, if_pos rfl]

/-- A replay that ends in an error has not begun: the entry is missing or not to be claimed, and
nothing has changed but that a moment was handed out. -/
theorem Claimed.rejected {t : Replay} {reason : StoreError} {d : Depot} (h : s.Claimed allow)
    (hactor : s.actors[place]? = some a) (ht : a.task.replay? = some t)
    (hstep : t.step s.gateway.depot = some (.done (.error reason), d)) :
    t.phase = .begun ∧ d = s.gateway.depot.tick ∧
      (reason = .notFound t.id ∧ s.letters.status? t.id = none ∨
        ∃ status, reason = .invalidTransition t.id status .processing ∧
          s.letters.status? t.id = some status ∧ status ∉ Replay.claimable s.gateway.depot) := by
  have hmoved := t.moved_of_step h.memory (h.processing_of_actor hactor ht) hstep
  generalize t.notes s.gateway.depot = notes at hmoved
  cases hmoved with
  | missing hphase hget =>
    exact ⟨hphase, rfl, .inl ⟨rfl, Option.map_eq_none_iff.mpr hget⟩⟩
  | refused hphase hget hstatus =>
    exact ⟨hphase, rfl, .inr ⟨_, rfl, DeadLetterStore.status?_of_get? hget, hstatus⟩⟩

/-- Nothing has come to a gateway whose store is in memory and holds no entry in processing. -/
theorem claimed_start {g : Gateway} (hmemory : g.depot.letters.faults = {})
    (hquiet : g.pool.fresh = []) (hclaimed : ∀ id, g.depot.letters.status? id ≠ some .processing) :
    Claimed g.depot.allowAbandoned ⟨g, [], []⟩ where
  memory := hmemory
  quiet := hquiet
  allows := rfl
  tasks := by simp
  flight id := by
    rw [letters, if_neg (hclaimed id)]
    rfl
  once _ id := by
    rw [claims, List.countP_nil, Nat.zero_add]
    split <;> simp
  executed _ := Nat.le_refl 0
  answer := by simp

/-- The life of dead letters while any number of replays, of single entries and of all pending ones,
run in any order over a store in memory that holds no entry in processing at first.

At every moment an entry has at most one replay in flight, and is in processing just while it has
one; without tasks at work none is in processing. Every move takes entries along their life and
changes nothing else in the store. Unless abandoned entries may be claimed again, the payload of an
entry goes through the gate once at most; an entry that is resolved never goes again. A replay that
ends well has left its entry as it says, resolved if and only if the gate delivered; one that ends
in an error has changed neither store nor senders. -/
theorem replays_follow_lifecycle {g : Gateway} (hmemory : g.depot.letters.faults = {})
    (hquiet : g.pool.fresh = []) (hclaimed : ∀ id, g.depot.letters.status? id ≠ some .processing)
    {s : Session ReplayNote} (hreaches : Reaches replays ⟨g, [], []⟩ s) :
    (∀ id, s.inFlight id ≤ 1 ∧ (s.inFlight id = 1 ↔ s.letters.status? id = some .processing)) ∧
    ((∀ a ∈ s.actors, a.task.isDone) → ∀ id, s.letters.status? id ≠ some .processing) ∧
    (∀ s', Move replays s s' → List.Forall₂ (DeadLetter.Follows g.depot.allowAbandoned)
      s.letters.entries s'.letters.entries) ∧
    (g.depot.allowAbandoned = false → ∀ id, s.executions id ≤ 1) ∧
    (∀ s' id, Reaches replays s s' → s.letters.status? id = some .resolved →
      s'.letters.status? id = some .resolved ∧ s'.claims id = s.claims id ∧
        s'.executions id = s.executions id) ∧
    ∀ place a t d, s.actors[place]? = some a → a.task.replay? = some t →
      (∀ outcome, t.step s.gateway.depot = some (.done (.ok outcome), d) →
        d.letters.status? t.id = some (Replay.finalStatus outcome) ∧
          ∀ n, outcome = .resolved n ↔
            ∃ r, s.latest place = some (.answered t.id (.ok (.delivered n r)))) ∧
      ∀ reason, t.step s.gateway.depot = some (.done (.error reason), d) →
        d = s.gateway.depot.tick ∧
          (reason = .notFound t.id ∧ s.letters.status? t.id = none ∨
            ∃ status, reason = .invalidTransition t.id status .processing ∧
              s.letters.status? t.id = some status ∧
              status ∉ Replay.claimable s.gateway.depot) := by
  have h : s.Claimed g.depot.allowAbandoned :=
    (claimed_start hmemory hquiet hclaimed).reaches hreaches
  have hflight : ∀ id, s.inFlight id ≤ 1 ∧
      (s.inFlight id = 1 ↔ s.letters.status? id = some .processing) := by
    intro id
    rw [h.flight id]
    by_cases hstatus : s.letters.status? id = some .processing <;> simp [hstatus]
  refine ⟨hflight, fun hdone id hstatus ↦ ?_, fun s' ↦ h.follows, fun hallow id ↦ ?_,
    fun s' id hreaches hresolved ↦ h.resolved hresolved hreaches,
    fun place a t d hactor ht ↦ ⟨fun outcome ↦ h.settled hactor ht, fun reason hstep ↦ ?_⟩⟩
  · have hone : s.inFlight id = 1 := (hflight id).2.mpr hstatus
    have hzero : s.inFlight id = 0 := by
      refine List.countP_eq_zero.mpr fun a ha ↦ ?_
      have hended := hdone a ha
      cases htask : a.task with
      | ended result => simp [Gateway.Task.holds, Gateway.Task.replay?]
      | _ => simp [htask, Gateway.Task.isDone] at hended
    exact absurd (hone.symm.trans hzero) (by simp)
  · exact Nat.le_trans (h.executed id) (Nat.le_trans (Nat.le_add_right _ _) (h.once hallow id))
  · exact (h.rejected hactor ht hstep).2

/-- A gateway with one pending entry, whose sender succeeds. -/
def withLetter : Gateway where
  config := {}
  plant :=
    { pool := { settings := {} }
      site :=
        { gates := { defaults := {} }
          senders := ⟨[("slack", .log)]⟩
          letters :=
            { entries :=
              [{ id := ⟨7⟩, typeId := "build.failed", category := "ci", context := "null"
                 target := ⟨"slack", "alerts", "https://hooks.slack/alerts"⟩
                 payload := some .null, reason := "rate limited", status := .pending
                 attempts := 0, createdAt := ⟨0, 0⟩, updatedAt := ⟨0, 0⟩ }] } } }

/-- Two replays of one entry begin together. The first claims it, so the second is turned down while
the first goes through the gate and resolves the entry. -/
theorem replays_follow_lifecycle_twice :
    ∃ s, play replays [(0, 0), (1, 0), (0, 0), (0, 0), (0, 0), (0, 0)]
        ⟨withLetter, [.new (.replay { id := ⟨7⟩ }), .new (.replay { id := ⟨7⟩ })], []⟩ = some s ∧
      s.claims ⟨7⟩ = 1 ∧ s.executions ⟨7⟩ ≤ 1 ∧
      s.letters.status? ⟨7⟩ = some .resolved ∧ ∀ id, s.letters.status? id ≠ some .processing := by
  have hplay : (play replays [(0, 0), (1, 0), (0, 0), (0, 0), (0, 0), (0, 0)]
      ⟨withLetter, [.new (.replay { id := ⟨7⟩ }), .new (.replay { id := ⟨7⟩ })], []⟩).map
        (fun s ↦ (s.claims ⟨7⟩, s.letters.status? ⟨7⟩, s.actors.all fun a ↦ a.task.isDone)) =
      some (1, some .resolved, true) := by rfl
  obtain ⟨s, hs, heq⟩ := Option.map_eq_some_iff.mp hplay
  obtain ⟨hclaims, hstatus, hdone⟩ : s.claims ⟨7⟩ = 1 ∧ s.letters.status? ⟨7⟩ = some .resolved ∧
      (s.actors.all fun a ↦ a.task.isDone) = true := by simpa using heq
  have hclaimed : ∀ id, withLetter.depot.letters.status? id ≠ some .processing := by
    intro id
    by_cases hid : (⟨7⟩ : EntryId) = id
    · subst hid
      exact ne_of_beq_false rfl
    · simp [DeadLetterStore.status?, DeadLetterStore.get?, Gateway.depot, withLetter, hid]
  have hreaches : Reaches replays ⟨withLetter, [], []⟩ s :=
    .head (.come (.inl ⟨⟨7⟩, rfl⟩)) (.head (.come (.inl ⟨⟨7⟩, rfl⟩)) (reaches_of_play hs))
  obtain ⟨-, hnone, -, honce, -⟩ := replays_follow_lifecycle rfl rfl hclaimed hreaches
  exact ⟨s, hs, hclaims, honce rfl _, hstatus, hnone (by simpa using hdone)⟩

end Session

end Courier

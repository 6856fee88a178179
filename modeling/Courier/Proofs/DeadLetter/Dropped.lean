import Courier.Proofs.DeadLetter.Unsettled

/-!
# Replays that are dropped

Whoever waits for a replay may give it up before it ends. What the replay holds of its gate is then
given back, but its claim is a write to the store, and nobody takes that back. So a replay that is
dropped after its claim leaves its entry in processing with no replay in flight, wherever it was: in
line for a slot, before the limiter, in a send, between two sends or before it settles. One that is
dropped before its claim leaves the store as it was, and so do the replays of all pending entries
between two of them.

`Frayed` is a session in which any task may be dropped at any moment. It remembers the entries whose
replays were dropped with their claims. `Frayed.Kept` is the invariant: an entry in processing has
either one replay in flight or one that was dropped. What follows for the entries is
`Frayed.dropped_claim_strands`.
-/

set_option autoImplicit false
set_option relaxedAutoImplicit false

namespace Courier

/-! ### What dropping takes back -/

/-- The entry that the task has claimed and not settled. -/
def Gateway.Task.claim? (task : Gateway.Task) : Option EntryId :=
  task.replay?.bind fun t ↦ match t.phase with
    | .begun => none
    | _ => some t.id

theorem Gateway.Task.holds_eq (task : Gateway.Task) (id : EntryId) :
    task.holds id = decide (task.claim? = some id) := by
  unfold Gateway.Task.holds Gateway.Task.claim?
  cases task.replay? with
  | none => rfl
  | some t =>
    show t.holds id = decide (_ = some id)
    by_cases hphase : t.phase = .begun
    · simp [Replay.holds_of_phase_eq hphase, hphase]
    · rw [Replay.holds_of_phase_ne hphase]
      simp

/-- Giving up a call leaves the dead letters alone. -/
theorem Depot.keepsLetters_cancelCall (d : Depot) (resource platform : String) (c : GateCall) :
    d.KeepsLetters (d.cancelCall resource platform c) := by
  unfold Depot.cancelCall
  split
  · rename_i site hscene
    obtain ⟨gate, sender, scene, -, -, -, rfl⟩ := Depot.onScene_hears hscene
    exact ⟨rfl, rfl⟩
  · exact ⟨rfl, rfl⟩

/-- Dropping a replay leaves the dead letters alone. -/
theorem Replay.keepsLetters_cancel (t : Replay) (d : Depot) : d.KeepsLetters (t.cancel d) := by
  unfold Replay.cancel
  split
  · exact d.keepsLetters_cancelCall _ _ _
  · exact ⟨rfl, rfl⟩

/-- Dropping a task that replays works on the depot only, and leaves the dead letters alone. -/
theorem Gateway.Task.cancel_eq {task : Gateway.Task} (htask : task.Replays) (g : Gateway) :
    ∃ site, task.cancel g = g.withDepot site ∧ g.depot.KeepsLetters site := by
  have hsame : ∃ site, g = g.withDepot site ∧ g.depot.KeepsLetters site := ⟨_, rfl, rfl, rfl⟩
  cases task with
  | replay t => exact ⟨_, rfl, t.keepsLetters_cancel _⟩
  | replayAll t =>
    refine ⟨t.cancel g.depot, rfl, ?_⟩
    unfold ReplayAll.cancel
    split
    · exact Replay.keepsLetters_cancel _ _
    · exact ⟨rfl, rfl⟩
  | ended result => exact hsame
  | call | dispatch | submit | batch | shutdown | background | cancelBatchAt | shutdownAt =>
    exact htask.elim

/-! ### Sessions in which tasks are dropped -/

/-- A session in which tasks may be dropped. -/
structure Frayed where
  session : Session ReplayNote
  /-- The entries whose replays were dropped with their claims, the latest first. -/
  lost : List EntryId := []

namespace Frayed

/-- The session after a task was dropped. -/
def dropped (s : Frayed) (place : ℕ) (a : Actor) : Frayed where
  session :=
    { s.session with
      gateway := a.task.cancel s.session.gateway
      actors := s.session.actors.eraseIdx place }
  lost := a.task.claim?.toList ++ s.lost

/-- One move of a session in which tasks may be dropped. -/
inductive Move (s : Frayed) : Frayed → Prop where
  | move {session : Session ReplayNote} (hmove : Session.Move replays s.session session) :
      Move s { s with session }
  /-- A task is dropped where it is. -/
  | drop (place : ℕ) {a : Actor} (hactor : s.session.actors[place]? = some a) :
      Move s (s.dropped place a)

/-- Any number of moves. -/
abbrev Reaches : Frayed → Frayed → Prop := Relation.ReflTransGen Move

/-- An entry in processing has one replay in flight, or one that was dropped. -/
structure Kept (allow : Bool) (s : Frayed) : Prop where
  upheld : s.session.Upheld allow
  memory : s.session.letters.faults = {}
  flight : ∀ id, s.session.inFlight id + s.lost.count id =
    if s.session.letters.status? id = some .processing then 1 else 0

variable {s s' : Frayed} {allow : Bool} {place : ℕ} {a : Actor} {id : EntryId}

/-- One replay less is in flight. -/
theorem inFlight_dropped (hactor : s.session.actors[place]? = some a) (id : EntryId) :
    (s.dropped place a).session.inFlight id + (if a.task.holds id then 1 else 0) =
      s.session.inFlight id := by
  obtain ⟨hlt, rfl⟩ := List.getElem?_eq_some_iff.mp hactor
  unfold Session.inFlight
  rw [← (List.getElem_cons_eraseIdx_perm hlt).countP_eq, List.countP_cons]
  rfl

/-- One entry more may be lost. -/
theorem count_lost_dropped (s : Frayed) (place : ℕ) (a : Actor) (id : EntryId) :
    (s.dropped place a).lost.count id = s.lost.count id + if a.task.holds id then 1 else 0 := by
  show (a.task.claim?.toList ++ s.lost).count id = _
  rw [List.count_append, Nat.add_comm, Gateway.Task.holds_eq]
  cases a.task.claim? with
  | none => rfl
  | some claimed => simp [List.count_singleton]

/-- Dropping a task leaves the dead letters alone. -/
theorem Kept.letters_dropped (h : s.Kept allow) (hactor : s.session.actors[place]? = some a) :
    (s.dropped place a).session.letters = s.session.letters := by
  obtain ⟨site, hcancel, hkeeps⟩ :=
    Gateway.Task.cancel_eq (h.upheld.tasks a (List.mem_of_getElem? hactor)) s.session.gateway
  show (a.task.cancel s.session.gateway).depot.letters = _
  rw [hcancel]
  exact hkeeps.letters

/-- A task that is dropped keeps the invariant. -/
theorem Kept.dropped (h : s.Kept allow) (hactor : s.session.actors[place]? = some a) :
    (s.dropped place a).Kept allow := by
  have hletters := h.letters_dropped hactor
  obtain ⟨site, hcancel, hkeeps⟩ :=
    Gateway.Task.cancel_eq (h.upheld.tasks a (List.mem_of_getElem? hactor)) s.session.gateway
  have hgateway : (s.dropped place a).session.gateway = s.session.gateway.withDepot site := hcancel
  have hflight : ∀ id, (s.dropped place a).session.inFlight id + (s.dropped place a).lost.count id =
      if (s.dropped place a).session.letters.status? id = some .processing then 1 else 0 := by
    intro id
    have hcount := inFlight_dropped hactor id
    have hlost := s.count_lost_dropped place a id
    have hkept := h.flight id
    rw [hletters]
    omega
  refine ⟨⟨?_, ?_, ?_, fun id ↦ ?_, fun hallow id ↦ ?_, h.upheld.executed⟩, ?_, hflight⟩
  · rw [hgateway]
    exact h.upheld.quiet
  · rw [hgateway]
    exact hkeeps.allowAbandoned.trans h.upheld.allows
  · exact fun b hb ↦ h.upheld.tasks b (List.mem_of_mem_eraseIdx hb)
  · exact Nat.le_trans (Nat.le_add_right _ _) (Nat.le_of_eq (hflight id))
  · rw [hletters]
    exact h.upheld.once hallow id
  · rw [hletters]
    exact h.memory

/-- A move of a session keeps the invariant. -/
theorem Kept.moved {session : Session ReplayNote} (h : s.Kept allow)
    (hmove : Session.Move replays s.session session) : Kept allow { s with session } := by
  have hupheld := h.upheld.step hmove
  cases hmove with
  | @turn place choice a task g hactor hstep =>
    obtain ⟨-, ⟨t, turn, d, ht, hturn, rfl, hnext⟩ | ⟨rfl, hnone, hbegun⟩⟩ :=
      Gateway.Task.replay_move h.memory (h.upheld.tasks a (List.mem_of_getElem? hactor)) hstep
    · have hmoved := t.moved_of_step h.memory (h.upheld.processing_of_actor hactor ht) hturn
      refine ⟨hupheld, hmoved.faults.trans h.memory, fun id ↦ ?_⟩
      have hcount := Session.inFlight_turned hactor task (s.session.gateway.withDepot d)
        (replays.note choice a.task s.session.gateway) id
      have hprocessing := hmoved.processing id
      have hkept := h.flight id
      rw [Gateway.Task.holds, Gateway.Task.holds, ht, hnext, Option.any_some] at hcount
      rw [Session.letters] at hkept
      show (s.session.turned place a task (s.session.gateway.withDepot d) _).inFlight id +
        s.lost.count id = if d.letters.status? id = some .processing then 1 else 0
      omega
    · refine ⟨hupheld, h.memory, fun id ↦ ?_⟩
      have hcount := Session.inFlight_turned hactor task s.session.gateway
        (replays.note choice a.task s.session.gateway) id
      rw [Session.holds_of_begun hbegun, Gateway.Task.holds, hnone] at hcount
      exact (congrArg (· + s.lost.count id) hcount).trans (h.flight id)
  | begin =>
    rw [Session.begun_of_quiet h.upheld.quiet]
    exact h
  | come hcomes =>
    refine ⟨hupheld, h.memory, fun id ↦ ?_⟩
    rw [Session.inFlight_come s.session hcomes id]
    exact h.flight id
  | pass => exact ⟨hupheld, h.memory, h.flight⟩

theorem Kept.step (h : s.Kept allow) (hmove : Move s s') : s'.Kept allow := by
  cases hmove with
  | move hmove => exact h.moved hmove
  | drop place hactor => exact h.dropped hactor

theorem Kept.reaches (h : s.Kept allow) (hreaches : Reaches s s') : s'.Kept allow := by
  induction hreaches with
  | refl => exact h
  | tail _ hmove ih => exact ih.step hmove

/-- Nothing has come to a gateway whose store is in memory and holds no entry in processing. -/
theorem kept_start {g : Gateway} (hmemory : g.depot.letters.faults = {})
    (hquiet : g.pool.fresh = []) (hclaimed : ∀ id, g.depot.letters.status? id ≠ some .processing) :
    Kept g.depot.allowAbandoned ⟨⟨g, [], []⟩, []⟩ where
  upheld := Session.upheld_start hquiet
  memory := hmemory
  flight id := (if_neg (hclaimed id)).symm

/-! ### Entries that are lost -/

/-- The entries that are stuck are the lost ones. -/
theorem Kept.stuck_iff (h : s.Kept allow) : s.session.Stuck id ↔ id ∈ s.lost := by
  have hflight := h.flight id
  constructor
  · intro hstuck
    rw [if_pos hstuck.processing, hstuck.free] at hflight
    exact List.count_pos_iff.mp (by omega)
  · intro hlost
    have hcount := List.count_pos_iff.mpr hlost
    by_cases hstatus : s.session.letters.status? id = some .processing
    · rw [if_pos hstatus] at hflight
      exact ⟨hstatus, by omega⟩
    · rw [if_neg hstatus] at hflight
      omega

/-- No move helps an entry that is stuck, and neither does dropping a task. -/
theorem Kept.stuck_step (h : s.Kept allow) (hstuck : s.session.Stuck id) (hmove : Move s s') :
    s'.session.Stuck id ∧ s'.session.claims id = s.session.claims id ∧
      s'.session.executions id = s.session.executions id := by
  cases hmove with
  | move hmove => exact hstuck.step h.upheld hmove
  | @drop place a hactor =>
    have hcount := inFlight_dropped hactor id
    rw [hstuck.free] at hcount
    have hprocessing : (s.dropped place a).session.letters.status? id = some .processing := by
      rw [h.letters_dropped hactor]
      exact hstuck.processing
    exact ⟨⟨hprocessing, by omega⟩, rfl, rfl⟩

theorem Kept.stuck_reaches (h : s.Kept allow) (hstuck : s.session.Stuck id)
    (hreaches : Reaches s s') :
    s'.session.Stuck id ∧ s'.session.claims id = s.session.claims id ∧
      s'.session.executions id = s.session.executions id := by
  induction hreaches with
  | refl => exact ⟨hstuck, rfl, rfl⟩
  | tail hbefore hlast ih =>
    obtain ⟨hstill, hclaims, hexecutions⟩ := ih
    obtain ⟨hafter, hclaims', hexecutions'⟩ := (h.reaches hbefore).stuck_step hstill hlast
    exact ⟨hafter, hclaims'.trans hclaims, hexecutions'.trans hexecutions⟩

end Frayed

/-- A replay of an entry in processing is turned down. -/
theorem Replay.step_of_processing {d : Depot} {id : EntryId} (hmemory : d.letters.faults = {})
    (hprocessing : d.letters.status? id = some .processing) :
    ({ id } : Replay).step d =
      some (.done (.error (.invalidTransition id .processing .processing)), d.tick) := by
  show some (claim { id } d) = _
  obtain ⟨e, hget, hstatus⟩ := Option.map_eq_some_iff.mp hprocessing
  obtain ⟨hnone, -⟩ | ⟨e', hget', -, heq⟩ | ⟨e', hget', hclaimable, -⟩ :=
    DeadLetterStore.transition_cases hmemory id (claimable d) .processing d.moment.stamp
  · exact absurd (hget.symm.trans hnone) (by simp)
  · obtain rfl := Option.some.inj (hget.symm.trans hget')
    rw [claim, heq, hstatus]
    rfl
  · obtain rfl := Option.some.inj (hget.symm.trans hget')
    exact absurd hstatus (ne_processing_of_claimable hclaimable)

namespace Frayed

variable {s s' : Frayed} {allow : Bool} {place : ℕ} {a : Actor} {id : EntryId}

/-- What dropping replays does to the entries of a store in memory, while any number of replays run
and are dropped in any order. An entry is in processing if and only if a replay of it is in flight
or one was dropped with its claim; the entries of the latter are stuck, and no others. Dropping a
task changes no entry: it makes stuck the entry that its replay has claimed, if it has claimed one,
and no other. An entry that is lost stays in processing for good, without a replay in flight: it is
not claimed again, its payload does not go through the gate again, and every replay of it that comes
later is turned down. -/
theorem dropped_claim_strands {g : Gateway} (hmemory : g.depot.letters.faults = {})
    (hquiet : g.pool.fresh = []) (hclaimed : ∀ id, g.depot.letters.status? id ≠ some .processing)
    (hreaches : Reaches ⟨⟨g, [], []⟩, []⟩ s) :
    (∀ id, s.session.letters.status? id = some .processing ↔
      s.session.inFlight id = 1 ∨ id ∈ s.lost) ∧
    (∀ id, s.session.Stuck id ↔ id ∈ s.lost) ∧
    (∀ place a, s.session.actors[place]? = some a →
      (s.dropped place a).session.letters = s.session.letters ∧
      ∀ id, (s.dropped place a).session.Stuck id ↔
        a.task.holds id = true ∨ s.session.Stuck id) ∧
    (∀ id ∈ s.lost, ∀ s', Reaches s s' →
      s'.session.Stuck id ∧ s'.session.claims id = s.session.claims id ∧
      s'.session.executions id = s.session.executions id ∧
      ({ id } : Replay).step s'.session.gateway.depot =
        some (.done (.error (.invalidTransition id .processing .processing)),
          s'.session.gateway.depot.tick)) := by
  have h := (kept_start hmemory hquiet hclaimed).reaches hreaches
  refine ⟨fun id ↦ ?_, fun id ↦ h.stuck_iff, fun place a hactor ↦ ⟨h.letters_dropped hactor,
    fun id ↦ ?_⟩, fun id hlost s' hlater ↦ ?_⟩
  · have hflight := h.flight id
    rw [← List.count_pos_iff]
    by_cases hstatus : s.session.letters.status? id = some .processing
    · rw [if_pos hstatus] at hflight
      simp only [hstatus, true_iff]
      omega
    · rw [if_neg hstatus] at hflight
      simp only [hstatus, false_iff]
      omega
  · rw [(h.dropped hactor).stuck_iff, h.stuck_iff, ← List.count_pos_iff, ← List.count_pos_iff,
      s.count_lost_dropped place a id]
    by_cases hholds : a.task.holds id = true <;> simp [hholds]
  · obtain ⟨hstuck, hclaims, hexecutions⟩ := h.stuck_reaches (h.stuck_iff.mpr hlost) hlater
    exact ⟨hstuck, hclaims, hexecutions,
      Replay.step_of_processing (h.reaches hlater).memory hstuck.processing⟩

/-! ### A replay that is dropped in its send -/

/-- A gateway with one pending entry, whose sender takes a second. -/
def withSlowSender : Gateway :=
  Session.withLetter.withDepot
    { Session.withLetter.depot with
      senders := ⟨[("slack", { plan := fun _ ↦ ⟨.ofSecs 1, .result (.ok 200)⟩ })]⟩ }

/-- A replay claims the entry and sends its payload. -/
def sending : Option (Session ReplayNote) :=
  Session.play replays [(0, 0), (0, 0), (0, 0)]
    ⟨withSlowSender, [.new (.replay { id := ⟨7⟩ })], []⟩

theorem reaches_sending : Reaches ⟨⟨withSlowSender, [], []⟩, []⟩ ⟨sending.get rfl, []⟩ := by
  have hsession : Session.Reaches replays ⟨withSlowSender, [], []⟩ (sending.get rfl) :=
    .head (.come (.inl ⟨⟨7⟩, rfl⟩)) (Session.reaches_of_play (Option.some_get _).symm)
  exact hsession.lift (fun session ↦ (⟨session, []⟩ : Frayed)) fun _ _ hmove ↦ .move hmove

/-- No entry is in processing yet. -/
theorem status?_withSlowSender (id : EntryId) :
    withSlowSender.depot.letters.status? id ≠ some .processing := by
  by_cases hid : (⟨7⟩ : EntryId) = id
  · subst hid
    exact ne_of_beq_false rfl
  · have hnone : withSlowSender.depot.letters.status? id = none := by
      simp [DeadLetterStore.status?, DeadLetterStore.get?, Gateway.depot, withSlowSender,
        Gateway.withDepot, Session.withLetter, hid]
    simp [hnone]

/-- The replay is dropped while it waits for the sender's reply. Its entry was claimed and went
through the gate once, and is lost. -/
theorem dropped_claim_strands_sending :
    ∃ s, Reaches ⟨⟨withSlowSender, [], []⟩, []⟩ s ∧ s.lost = [⟨7⟩] ∧ s.session.Stuck ⟨7⟩ ∧
      ∀ s', Reaches s s' → s'.session.claims ⟨7⟩ = 1 ∧ s'.session.executions ⟨7⟩ = 1 := by
  have hreaches := reaches_sending.tail (.drop 0 rfl)
  obtain ⟨-, hstuck, -, hlost⟩ := dropped_claim_strands rfl rfl status?_withSlowSender hreaches
  refine ⟨_, hreaches, rfl, (hstuck ⟨7⟩).mpr List.mem_cons_self, fun s' hlater ↦ ?_⟩
  obtain ⟨-, hclaims, hexecutions, -⟩ := hlost ⟨7⟩ List.mem_cons_self s' hlater
  exact ⟨hclaims, hexecutions⟩

/-- Dropping a replay that waits for the sender's reply leaves its entry in processing with no
replay in flight, and no later replay can claim it. -/
theorem dropped_in_send_never_claimed :
    ∃ s a, Reaches ⟨⟨withSlowSender, [], []⟩, []⟩ s ∧ s.session.actors[0]? = some a ∧
      a.task.step s.session.gateway = none ∧
      (s.dropped 0 a).session.letters.status? ⟨7⟩ = some .processing ∧
      (s.dropped 0 a).session.inFlight ⟨7⟩ = 0 ∧
      ∀ s', Reaches (s.dropped 0 a) s' →
        s'.session.letters.status? ⟨7⟩ = some .processing ∧
        ({ id := ⟨7⟩ } : Replay).step s'.session.gateway.depot =
          some (.done (.error (.invalidTransition ⟨7⟩ .processing .processing)),
            s'.session.gateway.depot.tick) := by
  have hactor : (sending.get rfl).actors[0]? =
      some ((sending.get rfl).actors.get ⟨0, by decide⟩) := rfl
  have hkept := ((kept_start rfl rfl status?_withSlowSender).reaches reaches_sending).dropped hactor
  have hstuck : Session.Stuck _ ⟨7⟩ := hkept.stuck_iff.mpr List.mem_cons_self
  refine ⟨_, _, reaches_sending, rfl, rfl, hstuck.processing, hstuck.free, fun s' hlater ↦ ?_⟩
  have hstill := (hkept.stuck_reaches hstuck hlater).1.processing
  exact ⟨hstill, Replay.step_of_processing (hkept.reaches hlater).memory hstill⟩

end Frayed

end Courier

import Courier.Proofs.DeadLetter.Lifecycle

/-!
# Replays over a store that fails

The calls of a store may fail, any of them, and leave the entries as they are. A replay then ends in
an error in one of two ways. Either it could not claim its entry, and nothing has happened; or it
has replayed the entry and could not settle it, as often as it tried. That error does not mean that
nothing was sent. It leaves the entry in processing with no replay in flight, and there it stays: no
replay claims it, so its payload does not go through the gate again (`Session.Stuck`).

`Replay.Fares` are the moves of a replay over any store, told by what they do to the entries.
`Session.Upheld` is what is left of the invariant of a store in memory: an entry has at most one
replay in flight, and is in processing while it has one.
-/

set_option autoImplicit false
set_option relaxedAutoImplicit false

namespace Courier

/-! ### What a store answers -/

namespace DeadLetterStore

variable {s s' : DeadLetterStore}

theorem status?_congr (hentries : s'.entries = s.entries) (id : EntryId) :
    s'.status? id = s.status? id := by
  rw [status?, status?, get?, get?, hentries]

/-- What a store answers that is asked to move an entry, and the store afterwards. -/
inductive Answers (s : DeadLetterStore) (id : EntryId) (sources : List DeadLetterStatus)
    (target : DeadLetterStatus) (now : Timestamp) :
    Except StoreError DeadLetter → DeadLetterStore → Prop where
  /-- No entry has changed. If there is one that may be moved, the medium has failed. -/
  | declined {reason : StoreError} {letters : DeadLetterStore}
      (hentries : letters.entries = s.entries)
      (hreason : ∀ e, s.get? id = some e → e.status ∈ sources → ∃ text, reason = .backend text) :
      Answers s id sources target now (.error reason) letters
  | moved {e : DeadLetter} {letters : DeadLetterStore} (hget : s.get? id = some e)
      (hstatus : e.status ∈ sources)
      (hentries : letters.entries = (s.withMoved e target now).entries) :
      Answers s id sources target now (.ok (e.moved target now)) letters

/-- Whatever its medium does, a store moves an entry or changes none. -/
theorem answers (s : DeadLetterStore) (id : EntryId) (sources : List DeadLetterStatus)
    (target : DeadLetterStatus) (now : Timestamp) :
    s.Answers id sources target now (s.transition id sources target now).1
      (s.transition id sources target now).2 := by
  -- the store with what is left of the faults, which the medium either fails or goes on with
  have hasks : ∀ faults : Faults, s.Answers id sources target now
      (move { s with faults } id sources target now).1
      (move { s with faults } id sources target now).2 := by
    intro faults
    unfold move
    cases hget : s.get? id with
    | none =>
      rw [show ({ s with faults } : DeadLetterStore).get? id = none from hget]
      exact .declined rfl fun e he ↦ absurd (hget.symm.trans he) (by simp)
    | some e =>
      rw [show ({ s with faults } : DeadLetterStore).get? id = some e from hget]
      by_cases hsource : e.status ∈ sources
      · simp only [if_pos hsource]
        exact .moved hget hsource rfl
      · simp only [if_neg hsource]
        refine .declined rfl fun other hother hstatus ↦ ?_
        rw [hget, Option.some.injEq] at hother
        exact absurd (hother ▸ hstatus) hsource
  simp only [transition]
  split_ifs
  · exact .declined rfl fun _ _ _ ↦ ⟨_, rfl⟩
  · exact hasks _
  · exact .declined rfl fun _ _ _ ↦ ⟨_, rfl⟩
  · exact hasks _

end DeadLetterStore

/-! ### The moves of a replay -/

namespace Replay

variable {t : Replay} {d site : Depot} {id : EntryId}
  {turn : Turn Replay (Except StoreError ReplayOutcome)} {notes : List ReplayNote}

/-- The moves of a replay over any store: what it turns into, the depot afterwards and what is
noted. -/
inductive Fares (t : Replay) (d : Depot) :
    Turn Replay (Except StoreError ReplayOutcome) → Depot → List ReplayNote → Prop where
  /-- The entry is not claimed. -/
  | refused {reason : StoreError} {letters : DeadLetterStore} (hphase : t.phase = .begun)
      (hentries : letters.entries = d.letters.entries) :
      Fares t d (.done (.error reason)) { d.tick with letters } []
  /-- The entry is claimed, and its payload goes through the gate or has failed already. -/
  | claims {e : DeadLetter} {next : Replay} {site : Depot} {notes : List ReplayNote}
      (hphase : t.phase = .begun) (hget : d.letters.get? t.id = some e)
      (hstatus : e.status ∈ claimable d)
      (hentries : site.letters.entries =
        (d.letters.withMoved e .processing d.moment.stamp).entries)
      (hallow : site.allowAbandoned = d.allowAbandoned) (hid : next.id = t.id)
      (hnext : next.phase ≠ .begun)
      (hnotes : notes = [.claimed t.id] ∨ notes = [.executed t.id, .claimed t.id]) :
      Fares t d (.going next) site notes
  /-- The call moves, or the entry could not be settled yet. -/
  | goes {next : Replay} {site : Depot} {notes : List ReplayNote} (hphase : t.phase ≠ .begun)
      (hentries : site.letters.entries = d.letters.entries)
      (hallow : site.allowAbandoned = d.allowAbandoned) (hid : next.id = t.id)
      (hnext : next.phase ≠ .begun) (hnotes : ∀ n ∈ notes, ∃ answer, n = .answered t.id answer) :
      Fares t d (.going next) site notes
  /-- The entry is settled. -/
  | settles {e : DeadLetter} {outcome : ReplayOutcome} {attempt wake : ℕ}
      {letters : DeadLetterStore} (hphase : t.phase = .settling outcome attempt wake)
      (hget : d.letters.get? t.id = some e) (hstatus : e.status = .processing)
      (hentries : letters.entries =
        (d.letters.withMoved e (finalStatus outcome) d.moment.stamp).entries) :
      Fares t d (.done (.ok outcome)) { d.tick with letters } []
  /-- The entry is given up, after as many attempts to settle it as are made. -/
  | abandons {outcome : ReplayOutcome} {attempt wake : ℕ} {text : String}
      {letters : DeadLetterStore} (hphase : t.phase = .settling outcome attempt wake)
      (hattempts : settleAttempts ≤ attempt) (hentries : letters.entries = d.letters.entries) :
      Fares t d (.done (.error (.backend text))) { d.tick with letters } []

theorem fares_of_claim (hphase : t.phase = .begun) :
    t.Fares d (t.claim d).1 (t.claim d).2 (t.notes d) := by
  have hstep : t.step d = some (t.claim d) := by rw [step, hphase]
  have hanswers := d.letters.answers t.id (claimable d) .processing d.moment.stamp
  rcases heq : d.letters.transition t.id (claimable d) .processing d.moment.stamp with
    ⟨answer, letters⟩
  rw [heq] at hanswers
  cases hanswers with
  | @declined reason letters hentries hreason =>
    have hclaim : t.claim d = (.done (.error reason), { d.tick with letters }) := by
      rw [claim, heq]
    simp only [notes, hphase, hstep, hclaim]
    exact .refused hphase hentries
  | @moved e letters hget hstatus hentries =>
    have hclaim : t.claim d =
        t.claimed { d.tick with letters } (e.moved .processing d.moment.stamp) := by
      rw [claim, heq]
    obtain ⟨c, site, hclaimed, hkeeps⟩ | ⟨failure, attempt, wake, site, hclaimed, hkeeps⟩ :=
      t.claimed_cases { d.tick with letters } (e.moved .processing d.moment.stamp)
    all_goals
      have hsite : site.letters.entries =
          (d.letters.withMoved e .processing d.moment.stamp).entries := by
        rw [hkeeps.letters]
        exact hentries
      simp only [notes, hphase, hstep, hclaim, hclaimed]
    · exact .claims hphase hget hstatus hsite hkeeps.allowAbandoned rfl (by simp) (.inr rfl)
    · exact .claims hphase hget hstatus hsite hkeeps.allowAbandoned rfl (by simp) (.inl rfl)

theorem fares_of_call {e : DeadLetter} {c : GateCall} (hphase : t.phase = .calling e c)
    (hstep : t.step d = some (turn, site)) : t.Fares d turn site (t.notes d) := by
  have hbegun : t.phase ≠ .begun := by simp [hphase]
  -- a call leaves the store alone, so it moves as over a store in memory
  have hmoved := moved_of_call hphase hstep
  generalize t.notes d = notes at hmoved ⊢
  cases hmoved with
  | missing h | refused h | called h | failed h => exact absurd h hbegun
  | calling h hkeeps =>
    exact .goes hbegun (by rw [hkeeps.letters]) hkeeps.allowAbandoned rfl (by simp) (by simp)
  | answered h _ hkeeps =>
    exact .goes hbegun (by rw [hkeeps.letters]) hkeeps.allowAbandoned rfl (by simp) (by simp)
  | settled h => exact absurd (h.symm.trans hphase) (by simp)

theorem fares_of_settle {outcome : ReplayOutcome} {attempt wake : ℕ}
    (hphase : t.phase = .settling outcome attempt wake)
    (hclaimed : d.letters.status? t.id = some .processing)
    (hstep : t.step d = some (turn, site)) : t.Fares d turn site (t.notes d) := by
  have hnotes : t.notes d = [] := by simp only [notes, hphase]
  obtain ⟨e, hget, hstatus⟩ := Option.map_eq_some_iff.mp hclaimed
  have hanswers :=
    d.letters.answers t.id [.processing] (finalStatus outcome) d.moment.stamp
  rcases heq : d.letters.transition t.id [.processing] (finalStatus outcome) d.moment.stamp with
    ⟨answer, letters⟩
  rw [heq] at hanswers
  rw [hnotes]
  simp only [step, hphase, Option.ite_none_right_eq_some, Option.some.injEq] at hstep
  obtain ⟨-, hsettle⟩ := hstep
  rw [settle, heq] at hsettle
  cases hanswers with
  | @declined reason letters hentries hreason =>
    obtain ⟨text, rfl⟩ := hreason e hget (List.mem_singleton.mpr hstatus)
    simp only at hsettle
    split_ifs at hsettle with hleft <;> obtain ⟨rfl, rfl⟩ := Prod.mk.inj hsettle
    · exact .goes (by simp [hphase]) hentries rfl rfl (by simp) (by simp)
    · exact .abandons hphase (Nat.le_of_not_lt hleft) hentries
  | @moved e letters hget hstatus hentries =>
    obtain ⟨rfl, rfl⟩ := Prod.mk.inj hsettle
    exact .settles hphase hget (List.mem_singleton.mp hstatus) hentries

/-- The moves of a replay over any store, if its entry is in processing once it has claimed it. -/
theorem fares_of_step (hclaimed : t.phase ≠ .begun → d.letters.status? t.id = some .processing)
    (hstep : t.step d = some (turn, site)) : t.Fares d turn site (t.notes d) := by
  cases hphase : t.phase with
  | begun =>
    have hclaim : t.claim d = (turn, site) := by
      rw [step, hphase] at hstep
      exact Option.some.inj hstep
    simpa only [hclaim] using fares_of_claim (d := d) hphase
  | calling e c => exact fares_of_call hphase hstep
  | settling outcome attempt wake =>
    exact fares_of_settle hphase (hclaimed (by simp [hphase])) hstep

theorem holds_of_phase_eq (hphase : t.phase = .begun) (id : EntryId) : t.holds id = false := by
  rw [holds, hphase]

theorem holds_of_phase_ne (hphase : t.phase ≠ .begun) (id : EntryId) :
    t.holds id = decide (t.id = id) := by
  rw [holds]
  split
  · rename_i hbegun
    exact absurd hbegun hphase
  · rfl

/-- What the gate answered is neither a claim nor a payload that goes through it. -/
theorem countP_of_answers (hnotes : ∀ n ∈ notes, ∃ answer, n = .answered t.id answer)
    (id : EntryId) :
    notes.countP (ReplayNote.isClaim id) = 0 ∧ notes.countP (ReplayNote.isExecution id) = 0 := by
  constructor <;>
  · refine List.countP_eq_zero.mpr fun n hn ↦ ?_
    obtain ⟨answer, rfl⟩ := hnotes n hn
    simp [ReplayNote.isClaim, ReplayNote.isExecution]

namespace Fares

theorem allowAbandoned (h : t.Fares d turn site notes) :
    site.allowAbandoned = d.allowAbandoned := by
  cases h with
  | refused | settles | abandons => rfl
  | claims _ _ _ _ hallow | goes _ _ hallow => exact hallow

/-- An entry is in processing while a replay of it is in flight. It may stay so when the replay
ends. -/
theorem processing (h : t.Fares d turn site notes) (id : EntryId) :
    (if turn.going?.any (fun next ↦ next.holds id) then 1 else 0) +
        (if d.letters.status? id = some .processing then 1 else 0) ≤
      (if t.holds id then 1 else 0) +
        (if site.letters.status? id = some .processing then 1 else 0) := by
  cases h with
  | refused hphase hentries =>
    rw [DeadLetterStore.status?_congr hentries, holds_of_phase_eq hphase]
    exact Nat.le_refl _
  | claims hphase hget hstatus hentries _ hid hnext =>
    have hbefore := DeadLetterStore.status?_of_get? hget
    have hne := ne_processing_of_claimable hstatus
    rw [DeadLetterStore.status?_congr hentries, DeadLetterStore.status?_withMoved hget,
      holds_of_phase_eq hphase]
    by_cases hsame : id = t.id
    · simp [Turn.going?, holds_of_phase_ne hnext, hid, hsame, hbefore, hne]
    · simp [Turn.going?, holds_of_phase_ne hnext, hid, hsame, Ne.symm hsame]
  | goes hphase hentries _ hid hnext =>
    rw [DeadLetterStore.status?_congr hentries, holds_of_phase_ne hphase]
    simp [Turn.going?, holds_of_phase_ne hnext, hid]
  | settles hphase hget hstatus hentries =>
    have hbefore := DeadLetterStore.status?_of_get? hget
    rw [DeadLetterStore.status?_congr hentries, DeadLetterStore.status?_withMoved hget,
      holds_of_phase_ne (by simp [hphase])]
    by_cases hsame : id = t.id
    · simp [Turn.going?, hsame, hbefore, hstatus]
    · simp [Turn.going?, hsame]
  | abandons hphase _ hentries =>
    rw [DeadLetterStore.status?_congr hentries]
    exact Nat.add_le_add_right (Nat.zero_le _) _

/-- Unless those that were abandoned may be claimed again, each claim takes one entry out of the
pending ones. -/
theorem pending (h : t.Fares d turn site notes) (hallow : d.allowAbandoned = false)
    (id : EntryId) :
    notes.countP (ReplayNote.isClaim id) +
        (if site.letters.status? id = some .pending then 1 else 0) =
      if d.letters.status? id = some .pending then 1 else 0 := by
  cases h with
  | refused _ hentries | abandons _ _ hentries =>
    rw [DeadLetterStore.status?_congr hentries]
    exact Nat.zero_add _
  | claims _ hget hstatus hentries _ _ _ hnotes =>
    have hbefore := DeadLetterStore.status?_of_get? hget
    have hpending := eq_pending_of_claimable hallow hstatus
    have hcount : notes.countP (ReplayNote.isClaim id) = if t.id = id then 1 else 0 := by
      obtain rfl | rfl := hnotes <;> simp [ReplayNote.isClaim, List.countP_cons]
    rw [DeadLetterStore.status?_congr hentries, DeadLetterStore.status?_withMoved hget, hcount]
    by_cases hsame : id = t.id
    · simp [hsame, hbefore, hpending]
    · simp [hsame, Ne.symm hsame]
  | goes _ hentries _ _ _ hnotes =>
    rw [DeadLetterStore.status?_congr hentries, (countP_of_answers hnotes id).1, Nat.zero_add]
  | settles _ hget hstatus hentries =>
    have hbefore := DeadLetterStore.status?_of_get? hget
    have hne := ne_pending_finalStatus
    rw [DeadLetterStore.status?_congr hentries, DeadLetterStore.status?_withMoved hget]
    by_cases hsame : id = t.id
    · simp [hsame, hbefore, hstatus, hne]
    · simp [hsame]

/-- A payload goes through the gate only with a claim. -/
theorem executions_le_claims (h : t.Fares d turn site notes) (id : EntryId) :
    notes.countP (ReplayNote.isExecution id) ≤ notes.countP (ReplayNote.isClaim id) := by
  cases h with
  | refused | settles | abandons => exact Nat.le_refl 0
  | claims _ _ _ _ _ _ _ hnotes =>
    obtain rfl | rfl := hnotes <;>
      simp [ReplayNote.isExecution, ReplayNote.isClaim, List.countP_cons]
  | goes _ _ _ _ _ hnotes =>
    rw [(countP_of_answers hnotes id).2]
    exact Nat.zero_le _

/-- An entry in processing that the replay does not hold stays so, and the replay does not claim
it. -/
theorem stuck (h : t.Fares d turn site notes) (hfree : t.holds id = false)
    (hprocessing : d.letters.status? id = some .processing) :
    site.letters.status? id = some .processing ∧ notes.countP (ReplayNote.isClaim id) = 0 ∧
      turn.going?.any (fun next ↦ next.holds id) = false := by
  cases h with
  | refused _ hentries | abandons _ _ hentries =>
    exact ⟨(DeadLetterStore.status?_congr hentries id).trans hprocessing, rfl, rfl⟩
  | claims hphase hget hstatus hentries _ hid hnext hnotes =>
    have hbefore := DeadLetterStore.status?_of_get? hget
    have hother : id ≠ t.id := by
      rintro rfl
      exact ne_processing_of_claimable hstatus (Option.some.inj (hbefore.symm.trans hprocessing))
    refine ⟨?_, ?_, ?_⟩
    · rw [DeadLetterStore.status?_congr hentries, DeadLetterStore.status?_withMoved hget,
        if_neg hother]
      exact hprocessing
    · obtain rfl | rfl := hnotes <;> simp [ReplayNote.isClaim, Ne.symm hother]
    · simp [Turn.going?, holds_of_phase_ne hnext, hid, Ne.symm hother]
  | goes hphase hentries _ hid hnext hnotes =>
    rw [holds_of_phase_ne hphase] at hfree
    refine ⟨(DeadLetterStore.status?_congr hentries id).trans hprocessing,
      (countP_of_answers hnotes id).1, ?_⟩
    simpa [Turn.going?, holds_of_phase_ne hnext, hid] using hfree
  | settles hphase hget hstatus hentries =>
    rw [holds_of_phase_ne (by simp [hphase])] at hfree
    have hother : id ≠ t.id := fun hsame ↦ by simp [hsame] at hfree
    refine ⟨?_, rfl, rfl⟩
    rw [DeadLetterStore.status?_congr hentries, DeadLetterStore.status?_withMoved hget,
      if_neg hother]
    exact hprocessing

end Fares

end Replay

namespace Session

/-- The replays in flight, the record and a store that fails fit together. -/
structure Upheld (allow : Bool) (s : Session ReplayNote) : Prop where
  quiet : s.gateway.plant.pool.fresh = []
  allows : s.gateway.depot.allowAbandoned = allow
  tasks : ∀ a ∈ s.actors, a.task.Replays
  flight : ∀ id, s.inFlight id ≤ if s.letters.status? id = some .processing then 1 else 0
  once : allow = false → ∀ id,
    s.claims id + (if s.letters.status? id = some .pending then 1 else 0) ≤ 1
  executed : ∀ id, s.executions id ≤ s.claims id

variable {s s' : Session ReplayNote} {place : ℕ} {a : Actor} {task : Gateway.Task} {t : Replay}
  {d : Depot} {notes : List ReplayNote} {allow : Bool} {id : EntryId}
  {turn : Turn Replay (Except StoreError ReplayOutcome)}

/-! ### The invariant -/

/-- The notes on the move of a task are those on the replay that it moves. -/
theorem note_of_replay (choice : ℕ) {g : Gateway} (ht : task.replay? = some t) :
    replays.note choice task g = t.notes g.depot := by
  simp [replays, ht]

theorem note_of_idle (choice : ℕ) {g : Gateway} (hnone : task.replay? = none) :
    replays.note choice task g = [] := by
  simp [replays, hnone]

/-- A replay that has claimed its entry is in flight. -/
theorem inFlight_pos (hactor : s.actors[place]? = some a) (ht : a.task.replay? = some t)
    (hphase : t.phase ≠ .begun) : 0 < s.inFlight t.id :=
  List.countP_pos_iff.mpr ⟨a, List.mem_of_getElem? hactor, by
    simp [Gateway.Task.holds, ht, Replay.holds_of_phase_ne hphase]⟩

theorem Upheld.processing_of_actor (h : s.Upheld allow) (hactor : s.actors[place]? = some a)
    (ht : a.task.replay? = some t) (hphase : t.phase ≠ .begun) :
    s.letters.status? t.id = some .processing := by
  have hpos := Nat.lt_of_lt_of_le (inFlight_pos hactor ht hphase) (h.flight t.id)
  by_contra hstatus
  simp [hstatus] at hpos

/-- The moves of a replay in a session. -/
theorem Upheld.fares (h : s.Upheld allow) (hactor : s.actors[place]? = some a)
    (ht : a.task.replay? = some t) (hstep : t.step s.gateway.depot = some (turn, d)) :
    t.Fares s.gateway.depot turn d (t.notes s.gateway.depot) :=
  Replay.fares_of_step (h.processing_of_actor hactor ht) hstep

/-- The move of a replay keeps the invariant. -/
theorem Upheld.replayed (h : s.Upheld allow) (hactor : s.actors[place]? = some a)
    (ht : a.task.replay? = some t) (hfares : t.Fares s.gateway.depot turn d notes)
    (htask : task.Replays) (hnext : task.replay? = turn.going?) :
    (s.turned place a task (s.gateway.withDepot d) notes).Upheld allow where
  quiet := h.quiet
  allows := hfares.allowAbandoned.trans h.allows
  tasks b hb := by
    obtain hb | rfl := List.mem_or_eq_of_mem_set hb
    · exact h.tasks b hb
    · exact htask
  flight id := by
    have hcount := inFlight_turned hactor task (s.gateway.withDepot d) notes id
    have hprocessing := hfares.processing id
    have hflight := h.flight id
    rw [Gateway.Task.holds, Gateway.Task.holds, ht, hnext, Option.any_some] at hcount
    rw [letters] at hflight
    change _ ≤ if d.letters.status? id = some .processing then 1 else 0
    omega
  once hallow id := by
    have hpending := hfares.pending (h.allows.trans hallow) id
    have honce := h.once hallow id
    rw [letters] at honce
    rw [claims_turned]
    change _ + (if d.letters.status? id = some .pending then 1 else 0) ≤ 1
    omega
  executed id := by
    rw [claims_turned, executions_turned]
    exact Nat.add_le_add (hfares.executions_le_claims id) (h.executed id)

/-- A move that is not the move of a replay keeps the invariant. -/
theorem Upheld.idle (h : s.Upheld allow) (hactor : s.actors[place]? = some a)
    (hnone : a.task.replay? = none) (htask : task.Replays)
    (hbegun : ∀ t, task.replay? = some t → t.phase = .begun) {letters : DeadLetterStore}
    (hentries : letters.entries = s.letters.entries) :
    (s.turned place a task (s.gateway.withDepot { s.gateway.depot with letters })
      []).Upheld allow where
  quiet := h.quiet
  allows := h.allows
  tasks b hb := by
    obtain hb | rfl := List.mem_or_eq_of_mem_set hb
    · exact h.tasks b hb
    · exact htask
  flight id := by
    have hcount := inFlight_turned hactor task
      (s.gateway.withDepot { s.gateway.depot with letters }) [] id
    rw [holds_of_begun hbegun, Gateway.Task.holds, hnone] at hcount
    rw [show Session.letters _ = letters from rfl, DeadLetterStore.status?_congr hentries]
    exact Nat.le_trans (Nat.le_of_eq hcount) (h.flight id)
  once hallow id := by
    rw [show Session.letters _ = letters from rfl, DeadLetterStore.status?_congr hentries]
    exact h.once hallow id
  executed := h.executed

/-- A task that comes keeps the invariant. -/
theorem Upheld.come (h : s.Upheld allow) (hcomes : replays.comes task) :
    Upheld allow { s with actors := s.actors ++ [.new task] } :=
  { h with
    tasks := fun b hb ↦ by
      obtain hb | hb := List.mem_append.mp hb
      · exact h.tasks b hb
      · obtain rfl := List.mem_singleton.mp hb
        exact (begun_of_comes hcomes).1
    flight := fun id ↦ Nat.le_trans (Nat.le_of_eq (inFlight_come s hcomes id)) (h.flight id) }

/-- Every move keeps the invariant. -/
theorem Upheld.step (h : s.Upheld allow) (hmove : Move replays s s') : s'.Upheld allow := by
  cases hmove with
  | @turn place choice a task g hactor hstep =>
    obtain ⟨htask, ⟨t, turn, d, ht, hturn, rfl, hnext⟩ |
        ⟨⟨letters, rfl, hentries, -⟩, hnone, hbegun⟩⟩ :=
      Gateway.Task.replay_cases (h.tasks a (List.mem_of_getElem? hactor)) hstep
    · rw [note_of_replay choice ht]
      exact h.replayed hactor ht (h.fares hactor ht hturn) htask hnext
    · rw [note_of_idle choice hnone]
      exact h.idle hactor hnone htask hbegun hentries
  | begin => rwa [begun_of_quiet h.quiet]
  | come hcomes => exact h.come hcomes
  | pass => exact { h with }

theorem Upheld.reaches (h : s.Upheld allow) (hreaches : Reaches replays s s') :
    s'.Upheld allow :=
  hreaches.keeps (fun _ _ ↦ Upheld.step) h

/-- Nothing has come to a gateway yet. -/
theorem upheld_start {g : Gateway} (hquiet : g.pool.fresh = []) :
    Upheld g.depot.allowAbandoned ⟨g, [], []⟩ where
  quiet := hquiet
  allows := rfl
  tasks := by simp
  flight id := Nat.zero_le _
  once _ id := by
    rw [claims, List.countP_nil, Nat.zero_add]
    split <;> simp
  executed _ := Nat.le_refl 0

/-! ### Entries that are stuck -/

/-- An entry is in processing and no replay of it is in flight. -/
structure Stuck (s : Session ReplayNote) (id : EntryId) : Prop where
  processing : s.letters.status? id = some .processing
  free : s.inFlight id = 0

/-- An actor holds nothing that is stuck. -/
theorem Stuck.holds_eq (h : s.Stuck id) (hactor : s.actors[place]? = some a) :
    a.task.holds id = false := by
  have hfree := List.countP_eq_zero.mp h.free a (List.mem_of_getElem? hactor)
  simpa using hfree

/-- The move of a replay leaves an entry stuck and its payload where it is. -/
theorem Stuck.replayed (h : s.Stuck id) (hactor : s.actors[place]? = some a)
    (ht : a.task.replay? = some t) (hfares : t.Fares s.gateway.depot turn d notes)
    (hnext : task.replay? = turn.going?) :
    (s.turned place a task (s.gateway.withDepot d) notes).Stuck id ∧
      (s.turned place a task (s.gateway.withDepot d) notes).claims id = s.claims id ∧
      (s.turned place a task (s.gateway.withDepot d) notes).executions id = s.executions id := by
  have hheld := h.holds_eq hactor
  have hfree : t.holds id = false := by simpa [Gateway.Task.holds, ht] using hheld
  obtain ⟨hstatus, hclaims, hidle⟩ := hfares.stuck hfree h.processing
  have hexecutions := hfares.executions_le_claims id
  have hcount := inFlight_turned hactor task (s.gateway.withDepot d) notes id
  rw [hheld, h.free, Gateway.Task.holds, hnext, hidle] at hcount
  refine ⟨⟨hstatus, hcount⟩, ?_, ?_⟩
  · rw [claims_turned, hclaims, Nat.zero_add]
  · rw [hclaims, Nat.le_zero] at hexecutions
    rw [executions_turned, hexecutions, Nat.zero_add]

/-- No move helps an entry that is stuck. -/
theorem Stuck.step (h : s.Stuck id) (hupheld : s.Upheld allow) (hmove : Move replays s s') :
    s'.Stuck id ∧ s'.claims id = s.claims id ∧ s'.executions id = s.executions id := by
  cases hmove with
  | @turn place choice a task g hactor hstep =>
    obtain ⟨htask, ⟨t, turn, d, ht, hturn, rfl, hnext⟩ |
        ⟨⟨letters, rfl, hentries, -⟩, hnone, hbegun⟩⟩ :=
      Gateway.Task.replay_cases (hupheld.tasks a (List.mem_of_getElem? hactor)) hstep
    · rw [note_of_replay choice ht]
      exact h.replayed hactor ht (hupheld.fares hactor ht hturn) hnext
    · have hcount := inFlight_turned hactor task
        (s.gateway.withDepot { s.gateway.depot with letters }) [] id
      rw [holds_of_begun hbegun, h.holds_eq hactor, h.free] at hcount
      rw [note_of_idle choice hnone]
      exact ⟨⟨(DeadLetterStore.status?_congr hentries id).trans h.processing, hcount⟩, rfl, rfl⟩
  | begin =>
    rw [begun_of_quiet hupheld.quiet]
    exact ⟨h, rfl, rfl⟩
  | come hcomes => exact ⟨⟨h.processing, (inFlight_come s hcomes id).trans h.free⟩, rfl, rfl⟩
  | pass => exact ⟨⟨h.processing, h.free⟩, rfl, rfl⟩

/-- An entry that is stuck stays so, is not claimed and does not go through the gate. -/
theorem Stuck.reaches (h : s.Stuck id) (hupheld : s.Upheld allow)
    (hreaches : Reaches replays s s') :
    s'.Stuck id ∧ s'.claims id = s.claims id ∧ s'.executions id = s.executions id := by
  induction hreaches with
  | refl => exact ⟨h, rfl, rfl⟩
  | tail hbefore hlast ih =>
    obtain ⟨hstuck, hclaims, hexecutions⟩ := ih
    obtain ⟨hstuck', hclaims', hexecutions'⟩ := hstuck.step (hupheld.reaches hbefore) hlast
    exact ⟨hstuck', hclaims'.trans hclaims, hexecutions'.trans hexecutions⟩

/-- Some time passes and nothing else happens. -/
def wait (time : ℕ) (s : Session ReplayNote) : Session ReplayNote :=
  { s with
    gateway := s.gateway.drift (s.gateway.depot.clock.now + time) s.gateway.depot.clock.wall
      s.gateway.depot.clock.draw s.gateway.depot.types s.gateway.depot.formatters
      s.gateway.batchCancelled }

end Session

end Courier

import Courier.Proofs.DeadLetter.Return
import Courier.Proofs.DeadLetter.Unsettled

/-!
# What callers of replays are told

Callers may ask for the replay of one entry or of all that are pending. Besides what is noted of
every replay, `replayCalls` notes what comes of it: `Session.results` are the results of the replays
that one caller has made, in order, and `ReplaySummary.tally` counts them. Without these notes the
session is one of `replays` (`Session.Reaches.plain`), so all that holds there holds here.

Over a store in memory `Session.Happens` is what a move of such a session does. Three accounts come
out even at every moment (`Session.Kept`): what each caller counts are the results reported to it;
each claim of an entry is that of a replay in flight or of one that was reported well; and as many
entries as were reported resolved have been resolved.
-/

set_option autoImplicit false
set_option relaxedAutoImplicit false

namespace Courier

/-! ### Results -/

/-- The replay has delivered. -/
def ReplayOutcome.isResolved : ReplayOutcome → Bool
  | .resolved _ => true
  | .abandoned _ => false

namespace ReplaySummary

/-- The counts of some results. Every error counts as a rejection. -/
def tally (results : List (Except StoreError ReplayOutcome)) : ReplaySummary where
  resolved := results.countP fun r ↦ r.toOption.any ReplayOutcome.isResolved
  abandoned := results.countP fun r ↦ r.toOption.any fun outcome ↦ !outcome.isResolved
  rejected := results.countP fun r ↦ r.toOption.isNone

/-- The number of entries accounted for. -/
def total (summary : ReplaySummary) : ℕ := summary.resolved + summary.abandoned + summary.rejected

variable {results : List (Except StoreError ReplayOutcome)}
  {result : Except StoreError ReplayOutcome}

theorem total_tally (results : List (Except StoreError ReplayOutcome)) :
    (tally results).total = results.length := by
  induction results with
  | nil => rfl
  | cons result rest ih =>
    simp only [total, tally, List.countP_cons, List.length_cons] at ih ⊢
    rw [← ih]
    rcases result with reason | ⟨attempts⟩ | ⟨failure⟩ <;>
      simp [Except.toOption, ReplayOutcome.isResolved] <;> omega

theorem resolved_tally_append (results results' : List (Except StoreError ReplayOutcome)) :
    (tally (results ++ results')).resolved = (tally results).resolved + (tally results').resolved :=
  List.countP_append

/-- A caller counts what is reported to it, unless the medium has failed. -/
theorem count_tally (hresult : ∀ text, result ≠ .error (.backend text)) :
    ReplayAll.count (tally results) result = .ok (tally (results ++ [result])) := by
  rcases result with reason | ⟨attempts⟩ | ⟨failure⟩
  · cases reason with
    | backend text => exact absurd rfl (hresult text)
    | notFound | invalidTransition =>
      simp [ReplayAll.count, tally, Except.toOption]
  · simp [ReplayAll.count, tally, Except.toOption, ReplayOutcome.isResolved]
  · simp [ReplayAll.count, tally, Except.toOption, ReplayOutcome.isResolved]

end ReplaySummary

/-- Only a failure of the medium ends all. -/
theorem ReplayAll.backend_of_count {summary : ReplaySummary}
    {result : Except StoreError ReplayOutcome} {reason : StoreError}
    (h : ReplayAll.count summary result = .error reason) :
    ∃ text, result = .error (.backend text) ∧ reason = .backend text := by
  rcases result with other | ⟨attempts⟩ | ⟨failure⟩
  · cases other with
    | backend text => exact ⟨text, rfl, (Except.error.inj h).symm⟩
    | notFound | invalidTransition => exact absurd h (by simp [ReplayAll.count])
  · exact absurd h (by simp [ReplayAll.count])
  · exact absurd h (by simp [ReplayAll.count])

/-! ### Notes on results -/

/-- What is noted of the replays that callers ask for. -/
inductive CallNote where
  | replay (note : ReplayNote)
  /-- What has come of the replay of an entry. -/
  | reported (id : EntryId) (result : Except StoreError ReplayOutcome)

namespace CallNote

def replay? : CallNote → Option ReplayNote
  | replay note => some note
  | reported .. => none

def report? : CallNote → Option (EntryId × Except StoreError ReplayOutcome)
  | replay _ => none
  | reported id result => some (id, result)

/-- The replay of an entry has ended well. -/
def settles (id : EntryId) : CallNote → Bool
  | reported other (.ok _) => other = id
  | _ => false

end CallNote

/-- What a task has come to, if it has ended. -/
def Turn.results {T R : Type} : Turn T R → List R
  | .going _ => []
  | .done result => [result]

/-- What is noted of a move of a replay: what comes of it, and what else is noted. -/
def Replay.callNotes (t : Replay) (turn : Turn Replay (Except StoreError ReplayOutcome))
    (notes : List ReplayNote) : List CallNote :=
  turn.results.map (.reported t.id) ++ notes.map .replay

/-- Replays come as to `replays`. What is noted is what is noted there, and what comes of them. -/
def replayCalls : Watch CallNote where
  comes := replays.comes
  note choice task g :=
    (match task.replay? with
      | none => []
      | some t =>
        match t.step g.depot with
        | none => []
        | some (turn, _) => turn.results.map (.reported t.id)) ++
      (replays.note choice task g).map .replay

namespace Session

variable {s s' : Session CallNote} {place : ℕ} {a : Actor} {task : Gateway.Task} {g : Gateway}
  {notes : List CallNote} {id : EntryId}

/-- The session without the notes on results. -/
def plain (s : Session CallNote) : Session ReplayNote where
  gateway := s.gateway
  actors := s.actors
  notes := s.notes.filterMap fun n ↦ n.2.replay?.map (Prod.mk n.1)

/-- The results of the replays that a caller has made, in order, each with its entry. -/
def results (s : Session CallNote) (place : ℕ) :
    List (EntryId × Except StoreError ReplayOutcome) :=
  (s.notes.filterMap fun n ↦ if n.1 = place then n.2.report? else none).reverse

/-- How often a replay of an entry has ended well. -/
def settlements (s : Session CallNote) (id : EntryId) : ℕ := s.notes.countP fun n ↦ n.2.settles id

/-- The depot. -/
def depot (s : Session CallNote) : Depot := s.gateway.depot

/-- After a move the mover has turned into something, and the others are as before. -/
theorem actor_turned {other : ℕ} {b : Actor} (hactor : s.actors[place]? = some a)
    (hb : (s.turned place a task g notes).actors[other]? = some b) :
    other = place ∧ b = { a with task } ∨ other ≠ place ∧ s.actors[other]? = some b := by
  by_cases hother : other = place
  · subst hother
    rw [turned, List.getElem?_set_self (List.getElem?_eq_some_iff.mp hactor).1] at hb
    exact .inl ⟨rfl, (Option.some.inj hb).symm⟩
  · rw [turned, List.getElem?_set_ne (Ne.symm hother)] at hb
    exact .inr ⟨hother, hb⟩

/-- Whoever comes takes a new place. -/
theorem actor_come {actors : List Actor} {b : Actor}
    (hb : (actors ++ [.new task])[place]? = some b) :
    actors[place]? = some b ∨ actors.length ≤ place ∧ b = .new task := by
  by_cases hlt : place < actors.length
  · rw [List.getElem?_append_left hlt] at hb
    exact .inl hb
  · rw [List.getElem?_append_right (Nat.le_of_not_lt hlt), List.getElem?_singleton] at hb
    obtain ⟨-, hsome⟩ := Option.ite_none_right_eq_some.mp hb
    exact .inr ⟨Nat.le_of_not_lt hlt, (Option.some.inj hsome).symm⟩

theorem filterMap_replay?_note (choice : ℕ) (task : Gateway.Task) (g : Gateway) :
    (replayCalls.note choice task g).filterMap CallNote.replay? = replays.note choice task g := by
  have hmap (notes : List ReplayNote) :
      (notes.map CallNote.replay).filterMap CallNote.replay? = notes := by
    simp [List.filterMap_map, Function.comp_def, CallNote.replay?]
  simp only [replayCalls, List.filterMap_append, hmap]
  split
  · rfl
  · split
    · rfl
    · rename_i turn _ _
      cases turn <;> rfl

theorem plain_turned :
    (s.turned place a task g notes).plain =
      s.plain.turned place a task g (notes.filterMap CallNote.replay?) := by
  simp only [plain, turned, List.filterMap_append, List.filterMap_map, List.map_filterMap]
  rfl

/-- Without the notes on results the session makes the same moves. -/
theorem Move.plain (h : Move replayCalls s s') : Move replays s.plain s'.plain := by
  cases h with
  | turn hactor hstep =>
    rw [plain_turned, filterMap_replay?_note]
    exact .turn hactor hstep
  | begin => exact .begin
  | come hcomes => exact .come hcomes
  | pass draw types formatters cancelled hnow hwall =>
    exact .pass draw types formatters cancelled hnow hwall

theorem Reaches.plain (h : Reaches replayCalls s s') : Reaches replays s.plain s'.plain :=
  h.lift Session.plain fun _ _ ↦ Move.plain

theorem results_turned_self :
    (s.turned place a task g notes).results place =
      s.results place ++ (notes.filterMap CallNote.report?).reverse := by
  simp [results, turned, List.filterMap_append, List.filterMap_map]

theorem results_turned_of_ne {other : ℕ} (hne : other ≠ place) :
    (s.turned place a task g notes).results other = s.results other := by
  simp [results, turned, List.filterMap_append, List.filterMap_map, Ne.symm hne]

theorem settlements_turned :
    (s.turned place a task g notes).settlements id =
      notes.countP (CallNote.settles id) + s.settlements id := by
  rw [settlements, turned, List.countP_append, List.countP_map]
  rfl

end Session

/-! ### The moves of callers -/

namespace Gateway.Task

variable {task task' : Task} {turn : Turn Replay (Except StoreError ReplayOutcome)}
  {letters : DeadLetterStore} {results : List (Except StoreError ReplayOutcome)}

/-- The results that a caller has counted. -/
def summary : Task → ReplaySummary
  | .replayAll (.replaying _ _ summary) => summary
  | .ended (.replayedAll (.ok summary)) => summary
  | .ended (.replayed result) => .tally [result]
  | _ => {}

/-- What a caller turns into when its replay moves. -/
inductive Carries : Task → Turn Replay (Except StoreError ReplayOutcome) → Task → Prop where
  | single {t : Replay} {turn : Turn Replay (Except StoreError ReplayOutcome)} :
      Carries (.replay t) turn (ofTurn .replay .replayed turn)
  | goes {waiting : List EntryId} {t t' : Replay} {summary : ReplaySummary} :
      Carries (.replayAll (.replaying waiting (some t) summary)) (.going t')
        (.replayAll (.replaying waiting (some t') summary))
  | counts {waiting : List EntryId} {t : Replay} {summary summary' : ReplaySummary}
      {result : Except StoreError ReplayOutcome}
      (hcount : ReplayAll.count summary result = .ok summary') :
      Carries (.replayAll (.replaying waiting (some t) summary)) (.done result)
        (.replayAll (.replaying waiting none summary'))
  | fails {waiting : List EntryId} {t : Replay} {summary : ReplaySummary} {text : String} :
      Carries (.replayAll (.replaying waiting (some t) summary)) (.done (.error (.backend text)))
        (.ended (.replayedAll (.error (.backend text))))

/-- What a caller turns into that moves without a replay, over a store in memory. -/
inductive Idles (letters : DeadLetterStore) : Task → Task → Prop where
  | lists : Idles letters (.replayAll .begun)
      (.replayAll (.replaying ((letters.inStatus .pending).map DeadLetter.id) none {}))
  | begins {id : EntryId} {waiting : List EntryId} {summary : ReplaySummary} :
      Idles letters (.replayAll (.replaying (id :: waiting) none summary))
        (.replayAll (.replaying waiting (some { id }) summary))
  | finishes {summary : ReplaySummary} :
      Idles letters (.replayAll (.replaying [] none summary))
        (.ended (.replayedAll (.ok summary)))

/-- Callers make no other moves. -/
theorem carries_or_idles {run : Batch.DispatchStep} {g g' : Gateway}
    (hmemory : g.depot.letters.faults = {}) (htask : task.Replays)
    (hstep : task.stepBy run g = some (task', g')) :
    (∃ t turn d, task.replay? = some t ∧ t.step g.depot = some (turn, d) ∧ g' = g.withDepot d ∧
      task.Carries turn task') ∨
    g' = g ∧ task.replay? = none ∧ Idles g.depot.letters task task' := by
  cases task with
  | replay t =>
    obtain ⟨⟨turn, d⟩, hturn, heq⟩ := Option.map_eq_some_iff.mp hstep
    obtain ⟨rfl, rfl⟩ := Prod.mk.inj heq
    exact .inl ⟨t, turn, d, rfl, hturn, rfl, .single⟩
  | replayAll t =>
    obtain ⟨⟨turn, d⟩, hturn, heq⟩ := Option.map_eq_some_iff.mp hstep
    obtain ⟨rfl, rfl⟩ := Prod.mk.inj heq
    cases t with
    | begun =>
      rw [ReplayAll.step, DeadLetterStore.list_eq hmemory] at hturn
      obtain ⟨rfl, rfl⟩ := Prod.mk.inj (Option.some.inj hturn)
      exact .inr ⟨rfl, rfl, .lists⟩
    | replaying waiting current summary =>
      cases current with
      | none =>
        cases waiting <;> obtain ⟨rfl, rfl⟩ := Prod.mk.inj (Option.some.inj hturn)
        · exact .inr ⟨rfl, rfl, .finishes⟩
        · exact .inr ⟨rfl, rfl, .begins⟩
      | some t =>
        rw [ReplayAll.step] at hturn
        split at hturn
        · exact absurd hturn (by simp)
        · rename_i next after hnext
          obtain ⟨rfl, rfl⟩ := Prod.mk.inj (Option.some.inj hturn)
          exact .inl ⟨t, _, _, rfl, hnext, rfl, .goes⟩
        · rename_i result after hnext
          split at hturn <;> obtain ⟨rfl, rfl⟩ := Prod.mk.inj (Option.some.inj hturn)
          · rename_i reason hcount
            obtain ⟨text, rfl, rfl⟩ := ReplayAll.backend_of_count hcount
            exact .inl ⟨t, _, _, rfl, hnext, rfl, .fails⟩
          · rename_i summary' hcount
            exact .inl ⟨t, .done result, _, rfl, hnext, rfl, .counts hcount⟩
  | ended result => exact absurd hstep (by simp [stepBy])
  | call | dispatch | submit | batch | shutdown | background | cancelBatchAt | shutdownAt =>
    exact htask.elim

theorem replay?_of_carries (h : Carries task turn task') : task'.replay? = turn.going? := by
  cases h with
  | @single t turn => cases turn <;> rfl
  | goes | counts | fails => rfl

/-- A caller counts what is reported to it, unless the medium has failed. -/
theorem summary_of_carries (h : Carries task turn task')
    (hresult : ∀ text, turn ≠ .done (.error (.backend text)))
    (hsummary : task.summary = .tally results) :
    task'.summary = .tally (results ++ turn.results) := by
  cases h with
  | @single t turn =>
    have hnone : results = [] := by
      rw [← List.length_eq_zero_iff, ← ReplaySummary.total_tally, ← hsummary]
      rfl
    subst hnone
    cases turn <;> rfl
  | goes => rwa [Turn.results, List.append_nil]
  | @counts _ _ summary _ _ hcount =>
    have hsum : summary = ReplaySummary.tally results := hsummary
    rw [hsum, ReplaySummary.count_tally fun text heq ↦ hresult text (congrArg Turn.done heq)]
      at hcount
    exact (Except.ok.inj hcount).symm
  | fails => exact absurd rfl (hresult _)

/-- A replay that a caller takes up has not begun. -/
theorem begun_of_idles (h : Idles letters task task') (t : Replay)
    (ht : task'.replay? = some t) : t.phase = .begun := by
  cases h with
  | lists | finishes => exact absurd ht (by simp [replay?])
  | begins =>
    obtain rfl := Option.some.inj ht
    rfl

theorem summary_of_idles (h : Idles letters task task') : task'.summary = task.summary := by
  cases h <;> rfl

end Gateway.Task

/-! ### What a move of a replay comes to -/

/-- The entries of which something holds, after one of them has been replaced. -/
theorem DeadLetterStore.countP_put {entries : List DeadLetter} {d e : DeadLetter}
    (hfind : entries.find? (fun x ↦ x.id = e.id) = some d) (p : DeadLetter → Bool) :
    (put e entries).countP p + (if p d then 1 else 0) =
      entries.countP p + if p e then 1 else 0 := by
  induction entries with
  | nil => simp at hfind
  | cons first rest ih =>
    by_cases hid : first.id = e.id
    · rw [List.find?_cons_of_pos (by simpa using hid)] at hfind
      obtain rfl := Option.some.inj hfind
      rw [put, if_pos hid, List.countP_cons, List.countP_cons]
      omega
    · rw [List.find?_cons_of_neg (by simpa using hid)] at hfind
      have hrest := ih hfind
      rw [put, if_neg hid, List.countP_cons, List.countP_cons]
      omega

theorem DeadLetterStore.find?_moved {s : DeadLetterStore} {id : EntryId} {e : DeadLetter}
    (hget : s.get? id = some e) (target : DeadLetterStatus) (now : Timestamp) :
    s.entries.find? (fun d ↦ d.id = (e.moved target now).id) = some e := by
  rw [← hget, get?, ← id_of_get? hget]
  rfl

/-- The entries in a state, after an entry has been moved. -/
theorem DeadLetterStore.count_withMoved {s : DeadLetterStore} {id : EntryId} {e : DeadLetter}
    (hget : s.get? id = some e) (target : DeadLetterStatus) (now : Timestamp)
    (status : DeadLetterStatus) :
    (s.withMoved e target now).count status + (if e.status = status then 1 else 0) =
      s.count status + if target = status then 1 else 0 := by
  have hcount := countP_put (find?_moved hget target now) fun d ↦ d.status = status
  simp only [decide_eq_true_eq] at hcount
  exact hcount

namespace Replay.Moved

variable {t : Replay} {d site : Depot} {turn : Turn Replay (Except StoreError ReplayOutcome)}
  {notes : List ReplayNote} {id : EntryId}

/-- Over a store in memory no replay ends in a failure of the medium. -/
theorem ne_backend (h : t.Moved d turn site notes) (text : String) :
    turn ≠ .done (.error (.backend text)) := by
  cases h <;> simp

/-- A replay stays with its entry. -/
theorem id_eq {t' : Replay} (h : t.Moved d (.going t') site notes) : t'.id = t.id := by
  cases h <;> rfl

/-- A replay moves its entry, if any, and never makes it pending. -/
theorem letters_cases (h : t.Moved d turn site notes) :
    site.letters = d.letters ∨ ∃ e target now, d.letters.get? t.id = some e ∧
      target ≠ .pending ∧ site.letters = d.letters.withMoved e target now := by
  cases h with
  | missing | refused => exact .inl rfl
  | called _ hget _ hletters | failed _ hget _ hletters =>
    exact .inr ⟨_, _, _, hget, by simp, hletters⟩
  | calling _ hkeeps | answered _ _ hkeeps => exact .inl hkeeps.letters
  | settled _ hget _ hletters => exact .inr ⟨_, _, _, hget, ne_pending_finalStatus _, hletters⟩

theorem status?_of_ne (h : t.Moved d turn site notes) (hne : id ≠ t.id) :
    site.letters.status? id = d.letters.status? id := by
  obtain hsame | ⟨e, target, now, hget, -, hletters⟩ := h.letters_cases
  · rw [hsame]
  · rw [hletters, DeadLetterStore.status?_withMoved hget, if_neg hne]

/-- Entries stay where they are. -/
theorem ids (h : t.Moved d turn site notes) :
    site.letters.entries.map DeadLetter.id = d.letters.entries.map DeadLetter.id := by
  obtain hsame | ⟨e, target, now, hget, -, hletters⟩ := h.letters_cases
  · rw [hsame]
  · rw [hletters]
    exact DeadLetterStore.ids_withMoved hget target now

/-- What is not pending does not become so. -/
theorem ne_pending (h : t.Moved d turn site notes)
    (hpending : d.letters.status? id ≠ some .pending) :
    site.letters.status? id ≠ some .pending := by
  obtain hsame | ⟨e, target, now, hget, htarget, hletters⟩ := h.letters_cases
  · rwa [hsame]
  · rw [hletters, DeadLetterStore.status?_withMoved hget]
    split_ifs
    · simpa using htarget
    · exact hpending

/-- When a replay has ended its entry is not pending. -/
theorem ne_pending_of_done {result : Except StoreError ReplayOutcome}
    (h : t.Moved d (.done result) site notes) :
    site.letters.status? t.id ≠ some .pending := by
  cases h with
  | missing _ hget =>
    show d.letters.status? t.id ≠ _
    simp [DeadLetterStore.status?, hget]
  | refused _ hget hstatus =>
    show d.letters.status? t.id ≠ _
    rw [DeadLetterStore.status?_of_get? hget]
    rintro heq
    rw [Option.some.inj heq] at hstatus
    exact hstatus (by rw [claimable]; split <;> simp)
  | settled _ hget _ hletters =>
    rw [hletters, DeadLetterStore.status?_withMoved hget, if_pos rfl]
    simpa using ne_pending_finalStatus _

/-- A replay whose entry is pending when it begins is not turned down. -/
theorem ne_error_of_pending {reason : StoreError} (h : t.Moved d turn site notes)
    (hpending : t.phase = .begun → d.letters.status? t.id = some .pending) :
    turn ≠ .done (.error reason) := by
  rintro rfl
  cases h with
  | missing hphase hget =>
    have hstatus := hpending hphase
    simp [DeadLetterStore.status?, hget] at hstatus
  | refused hphase hget hstatus =>
    have hpending := hpending hphase
    rw [DeadLetterStore.status?_of_get? hget, Option.some.injEq] at hpending
    rw [hpending] at hstatus
    exact hstatus (by rw [claimable]; split <;> simp)

/-- Each claim begins a replay in flight, which ends well or not at all. -/
theorem claims_eq (h : t.Moved d turn site notes) (id : EntryId) :
    notes.countP (ReplayNote.isClaim id) + (if t.holds id then 1 else 0) =
      (turn.results.map (CallNote.reported t.id)).countP (CallNote.settles id) +
        if turn.going?.any (fun next ↦ next.holds id) then 1 else 0 := by
  cases h with
  | missing hphase | refused hphase =>
    simp [Turn.results, Turn.going?, CallNote.settles, holds, hphase]
  | called hphase | failed hphase =>
    simp [Turn.results, Turn.going?, ReplayNote.isClaim, holds, hphase, List.countP_cons]
  | calling hphase | answered hphase =>
    simp [Turn.results, Turn.going?, ReplayNote.isClaim, holds, hphase]
  | settled hphase =>
    simp [Turn.results, Turn.going?, CallNote.settles, holds, hphase, List.countP_cons]

/-- An entry is resolved with the report of it. -/
theorem count_resolved (h : t.Moved d turn site notes) :
    site.letters.count .resolved =
      d.letters.count .resolved + (ReplaySummary.tally turn.results).resolved := by
  cases h with
  | missing | refused => rfl
  | called _ hget hstatus hletters | failed _ hget hstatus hletters =>
    have hcount := DeadLetterStore.count_withMoved hget .processing d.moment.stamp .resolved
    rw [if_neg (ne_resolved_of_claimable hstatus), if_neg (by simp)] at hcount
    rw [hletters]
    exact hcount
  | calling _ hkeeps | answered _ _ hkeeps => rw [hkeeps.letters]; rfl
  | @settled e outcome _ _ _ _ hget hstatus hletters =>
    have hcount :=
      DeadLetterStore.count_withMoved hget (finalStatus outcome) d.moment.stamp .resolved
    rw [if_neg (by simp [hstatus])] at hcount
    rw [hletters]
    refine hcount.trans ?_
    cases outcome <;>
      simp [finalStatus, ReplaySummary.tally, Turn.results, Except.toOption,
        ReplayOutcome.isResolved]

end Replay.Moved

/-! ### The moves of a session -/

namespace Session

variable {s s' : Session CallNote} {g : Gateway} {place : ℕ} {a : Actor} {task : Gateway.Task}
  {t : Replay} {turn : Turn Replay (Except StoreError ReplayOutcome)} {d : Depot} {allow : Bool}

/-- What a move does, over a store in memory. -/
inductive Happens (s : Session CallNote) : Session CallNote → Prop where
  /-- The replay of a caller moves. -/
  | replays {place : ℕ} {a : Actor} {t : Replay}
      {turn : Turn Replay (Except StoreError ReplayOutcome)} {d : Depot} {task : Gateway.Task}
      (hactor : s.actors[place]? = some a) (ht : a.task.replay? = some t)
      (hstep : t.step s.depot = some (turn, d)) (hmoved : t.Moved s.depot turn d (t.notes s.depot))
      (hcarries : a.task.Carries turn task) :
      Happens s
        (s.turned place a task (s.gateway.withDepot d) (t.callNotes turn (t.notes s.depot)))
  /-- A caller moves without a replay. -/
  | idles {place : ℕ} {a : Actor} {task : Gateway.Task} (hactor : s.actors[place]? = some a)
      (hnone : a.task.replay? = none) (hidles : a.task.Idles s.depot.letters task) :
      Happens s (s.turned place a task s.gateway [])
  | comes {task : Gateway.Task} (hcomes : replayCalls.comes task) :
      Happens s { s with actors := s.actors ++ [.new task] }
  | passes {gateway : Gateway} (hletters : gateway.depot.letters = s.depot.letters)
      (hupholds : s.depot.Upholds gateway.depot) : Happens s { s with gateway }

theorem happens_of_move (hupheld : s.plain.Upheld allow) (hmemory : s.depot.letters.faults = {})
    (hmove : Move replayCalls s s') : Happens s s' := by
  cases hmove with
  | @turn place choice a task gateway hactor hstep =>
    obtain ⟨t, turn, d, ht, hturn, rfl, hcarries⟩ | ⟨rfl, hnone, hidles⟩ :=
      Gateway.Task.carries_or_idles hmemory (hupheld.tasks a (List.mem_of_getElem? hactor)) hstep
    · have hmoved := Replay.moved_of_step hmemory
        (hupheld.processing_of_actor (s := s.plain) hactor ht) hturn
      have hnote : replayCalls.note choice a.task s.gateway =
          t.callNotes turn (t.notes s.depot) := by
        have hturn' : t.step s.gateway.depot = some (turn, d) := hturn
        simp only [replayCalls, ht, hturn', note_of_replay choice ht]
        rfl
      rw [hnote]
      exact .replays hactor ht hturn hmoved hcarries
    · have hnote : replayCalls.note choice a.task s.gateway = [] := by
        simp only [replayCalls, hnone, note_of_idle choice hnone]
        rfl
      rw [hnote]
      exact .idles hactor hnone hidles
  | begin =>
    rw [begun_of_quiet (s := s) hupheld.quiet]
    exact .passes rfl (Depot.upholds_of_keeps rfl rfl rfl (.refl _))
  | come hcomes => exact .comes hcomes
  | pass draw types formatters cancelled hnow =>
    exact .passes rfl ⟨rfl, hnow, fun _ hsome ↦ hsome, .refl _⟩

namespace Happens

/-- A move leaves replays what they rely on. -/
theorem upholds (h : Happens s s') (horderly : s.depot.gates.Orderly) :
    s.depot.Upholds s'.depot := by
  cases h with
  | replays _ _ hstep => exact Replay.upholds_of_advance horderly (Replay.advance_of_step hstep)
  | idles | comes => exact Depot.upholds_of_keeps rfl rfl rfl (.refl _)
  | passes _ hupholds => exact hupholds

theorem faults (h : Happens s s') : s'.depot.letters.faults = s.depot.letters.faults := by
  cases h with
  | replays _ _ _ hmoved => exact hmoved.faults
  | idles | comes => rfl
  | passes hletters => exact congrArg DeadLetterStore.faults hletters

/-- What is not pending does not become so. -/
theorem ne_pending (h : Happens s s') {id : EntryId}
    (hpending : s.depot.letters.status? id ≠ some .pending) :
    s'.depot.letters.status? id ≠ some .pending := by
  cases h with
  | replays _ _ _ hmoved => exact hmoved.ne_pending hpending
  | idles | comes => exact hpending
  | @passes gateway hletters =>
    show gateway.depot.letters.status? id ≠ _
    rwa [hletters]

/-- Entries stay where they are. -/
theorem ids (h : Happens s s') :
    s'.depot.letters.entries.map DeadLetter.id = s.depot.letters.entries.map DeadLetter.id := by
  cases h with
  | replays _ _ _ hmoved => exact hmoved.ids
  | idles | comes => rfl
  | passes hletters => exact congrArg (fun x ↦ x.entries.map DeadLetter.id) hletters

end Happens

/-! ### The accounts -/

/-- The number of entries that callers have counted as resolved. -/
def resolved (s : Session CallNote) : ℕ := (s.actors.map fun a ↦ a.task.summary.resolved).sum

/-- The accounts of a session that began at a gateway come out even. -/
structure Kept (g : Gateway) (s : Session CallNote) : Prop where
  upheld : s.plain.Upheld g.depot.allowAbandoned
  memory : s.depot.letters.faults = {}
  orderly : s.depot.gates.Orderly
  ids : (s.depot.letters.entries.map DeadLetter.id).Nodup
  places : ∀ n ∈ s.notes, n.1 < s.actors.length
  summaries : ∀ (place : ℕ) (a : Actor), s.actors[place]? = some a →
    a.task.summary = .tally ((s.results place).map Prod.snd)
  resolved : s.resolved + g.depot.letters.count .resolved = s.depot.letters.count .resolved
  settled : ∀ id, s.plain.claims id = s.settlements id + s.plain.inFlight id
  claimed : g.depot.allowAbandoned = false → ∀ id,
    s.plain.claims id + (if s.depot.letters.status? id = some .pending then 1 else 0) =
      if g.depot.letters.status? id = some .pending then 1 else 0

/-- Whose place is not taken has no results yet. -/
theorem results_of_places (hplaces : ∀ n ∈ s.notes, n.1 < s.actors.length) {place : ℕ}
    (hplace : s.actors.length ≤ place) : s.results place = [] := by
  rw [results, List.reverse_eq_nil_iff, List.filterMap_eq_nil_iff]
  intro n hn
  rw [if_neg fun heq ↦ ?_]
  exact absurd (hplaces n hn) (by omega)

theorem report?_callNotes (t : Replay) (turn : Turn Replay (Except StoreError ReplayOutcome))
    (notes : List ReplayNote) :
    (t.callNotes turn notes).filterMap CallNote.report? = turn.results.map (Prod.mk t.id) := by
  have hnone : (notes.map CallNote.replay).filterMap CallNote.report? = [] := by
    simp [List.filterMap_map, Function.comp_def, CallNote.report?]
  rw [Replay.callNotes, List.filterMap_append, hnone, List.append_nil]
  cases turn <;> rfl

theorem replay?_callNotes (t : Replay) (turn : Turn Replay (Except StoreError ReplayOutcome))
    (notes : List ReplayNote) : (t.callNotes turn notes).filterMap CallNote.replay? = notes := by
  have hsame : (notes.map CallNote.replay).filterMap CallNote.replay? = notes := by
    simp [List.filterMap_map, Function.comp_def, CallNote.replay?]
  rw [Replay.callNotes, List.filterMap_append, hsame]
  cases turn <;> rfl

theorem settles_callNotes (t : Replay) (turn : Turn Replay (Except StoreError ReplayOutcome))
    (notes : List ReplayNote) (id : EntryId) :
    (t.callNotes turn notes).countP (CallNote.settles id) =
      (turn.results.map (CallNote.reported t.id)).countP (CallNote.settles id) := by
  have hnone : (notes.map CallNote.replay).countP (CallNote.settles id) = 0 := by
    simp [List.countP_map, Function.comp_def, CallNote.settles]
  rw [Replay.callNotes, List.countP_append, hnone, Nat.add_zero]

/-- The results that a caller has got after its replay has moved. -/
theorem results_callNotes (turn : Turn Replay (Except StoreError ReplayOutcome))
    (notes : List ReplayNote) :
    (s.turned place a task g (t.callNotes turn notes)).results place =
      s.results place ++ turn.results.map (Prod.mk t.id) := by
  rw [results_turned_self, report?_callNotes]
  cases turn <;> rfl

namespace Happens

theorem places (h : Happens s s') (hplaces : ∀ n ∈ s.notes, n.1 < s.actors.length) :
    ∀ n ∈ s'.notes, n.1 < s'.actors.length := by
  have hturned : ∀ {place : ℕ} {a : Actor} (task : Gateway.Task) (g : Gateway)
      (notes : List CallNote), s.actors[place]? = some a →
      ∀ n ∈ (s.turned place a task g notes).notes,
        n.1 < (s.turned place a task g notes).actors.length := by
    intro place a task g notes hactor n hn
    rw [turned, List.length_set]
    obtain hn | hn := List.mem_append.mp hn
    · obtain ⟨note, -, rfl⟩ := List.mem_map.mp hn
      exact (List.getElem?_eq_some_iff.mp hactor).1
    · exact hplaces n hn
  cases h with
  | replays hactor => exact hturned _ _ _ hactor
  | idles hactor => exact hturned _ _ _ hactor
  | comes =>
    intro n hn
    rw [List.length_append]
    exact Nat.lt_add_right _ (hplaces n hn)
  | passes => exact hplaces

/-- What callers count are the results reported to them. -/
theorem summaries (h : Happens s s') (hplaces : ∀ n ∈ s.notes, n.1 < s.actors.length)
    (hsummaries : ∀ (place : ℕ) (a : Actor), s.actors[place]? = some a →
      a.task.summary = .tally ((s.results place).map Prod.snd))
    {other : ℕ} {b : Actor} (hb : s'.actors[other]? = some b) :
    b.task.summary = .tally ((s'.results other).map Prod.snd) := by
  cases h with
  | @replays place a t turn d task hactor ht hstep hmoved hcarries =>
    obtain ⟨rfl, rfl⟩ | ⟨hother, hb⟩ := actor_turned hactor hb
    · have hresults : (turn.results.map (Prod.mk t.id)).map Prod.snd = turn.results := by
        simp [List.map_map, Function.comp_def]
      rw [results_callNotes, List.map_append, hresults]
      exact Gateway.Task.summary_of_carries hcarries hmoved.ne_backend (hsummaries _ a hactor)
    · rw [results_turned_of_ne hother]
      exact hsummaries other b hb
  | @idles place a task hactor hnone hidles =>
    have hsame : (s.turned place a task s.gateway []).results other = s.results other := rfl
    rw [hsame]
    obtain ⟨rfl, rfl⟩ | ⟨-, hb⟩ := actor_turned hactor hb
    · exact (Gateway.Task.summary_of_idles hidles).trans (hsummaries _ a hactor)
    · exact hsummaries other b hb
  | @comes task hcomes =>
    obtain hb | ⟨hplace, rfl⟩ := actor_come hb
    · exact hsummaries other b hb
    · have hnone : s.results other = [] := results_of_places hplaces hplace
      have hsame : results { s with actors := s.actors ++ [.new task] } other = [] := hnone
      rw [hsame]
      obtain ⟨id, rfl⟩ | rfl := hcomes <;> rfl
  | passes => exact hsummaries other b hb

theorem resolved (h : Happens s s')
    (hsummaries : ∀ (place : ℕ) (a : Actor), s.actors[place]? = some a →
      a.task.summary = .tally ((s.results place).map Prod.snd)) :
    s'.resolved + s.depot.letters.count .resolved =
      s.resolved + s'.depot.letters.count .resolved := by
  cases h with
  | @replays place a t turn d task hactor ht hstep hmoved hcarries =>
    have hcount := hmoved.count_resolved
    have hbefore := hsummaries place a hactor
    have hafter := Gateway.Task.summary_of_carries hcarries hmoved.ne_backend hbefore
    have hsum := sum_map_set hactor (fun b ↦ b.task.summary.resolved) { a with task }
    simp only [hafter, hbefore, ReplaySummary.resolved_tally_append] at hsum
    show (List.map _ (s.actors.set place { a with task })).sum + _ =
      s.resolved + d.letters.count .resolved
    rw [hcount, Session.resolved]
    omega
  | @idles place a task hactor hnone hidles =>
    have hsum := sum_map_set hactor (fun b ↦ b.task.summary.resolved) { a with task }
    simp only [Gateway.Task.summary_of_idles hidles] at hsum
    exact congrArg (· + s.depot.letters.count .resolved) (Nat.add_right_cancel hsum)
  | @comes task hcomes =>
    have hnone : task.summary.resolved = 0 := by obtain ⟨id, rfl⟩ | rfl := hcomes <;> rfl
    have hsum : Session.resolved { s with actors := s.actors ++ [.new task] } = s.resolved := by
      simp [Session.resolved, Actor.new, hnone]
    rw [hsum]
    rfl
  | @passes gateway hletters =>
    show _ = _ + gateway.depot.letters.count .resolved
    rw [hletters]
    rfl

/-- Each claim is that of a replay in flight or of one that has ended well. -/
theorem settled (h : Happens s s') (id : EntryId)
    (hsettled : s.plain.claims id = s.settlements id + s.plain.inFlight id) :
    s'.plain.claims id = s'.settlements id + s'.plain.inFlight id := by
  cases h with
  | @replays place a t turn d task hactor ht hstep hmoved hcarries =>
    have hclaims := hmoved.claims_eq id
    have hcount := inFlight_turned (s := s.plain) hactor task (s.gateway.withDepot d)
      (t.notes s.depot) id
    rw [Gateway.Task.holds, Gateway.Task.holds, ht, Gateway.Task.replay?_of_carries hcarries,
      Option.any_some] at hcount
    rw [plain_turned, replay?_callNotes, claims_turned, settlements_turned, settles_callNotes]
    omega
  | @idles place a task hactor hnone hidles =>
    have hcount := inFlight_turned (s := s.plain) hactor task s.gateway [] id
    rw [holds_of_begun (Gateway.Task.begun_of_idles hidles), Gateway.Task.holds, hnone] at hcount
    have hflight : (s.turned place a task s.gateway []).plain.inFlight id = s.plain.inFlight id :=
      hcount
    rw [hflight]
    exact hsettled
  | comes hcomes =>
    have hflight := inFlight_come s.plain hcomes id
    rw [← hflight] at hsettled
    exact hsettled
  | passes => exact hsettled

/-- Each claim takes an entry out of the pending ones. -/
theorem claimed (h : Happens s s') (hallow : s.depot.allowAbandoned = false) (id : EntryId) :
    s'.plain.claims id + (if s'.depot.letters.status? id = some .pending then 1 else 0) =
      s.plain.claims id + if s.depot.letters.status? id = some .pending then 1 else 0 := by
  cases h with
  | @replays place a t turn d task hactor ht hstep hmoved hcarries =>
    have hpending := hmoved.pending hallow id
    rw [plain_turned, replay?_callNotes, claims_turned]
    show _ + (if d.letters.status? id = some .pending then 1 else 0) = _
    omega
  | idles | comes => rfl
  | @passes gateway hletters =>
    show _ + (if gateway.depot.letters.status? id = some .pending then 1 else 0) = _
    rw [hletters]
    rfl

end Happens

theorem Kept.step (h : s.Kept g) (hmove : Move replayCalls s s') : s'.Kept g := by
  have hhappens := happens_of_move h.upheld h.memory hmove
  exact
    { upheld := h.upheld.step hmove.plain
      memory := hhappens.faults.trans h.memory
      orderly := (hhappens.upholds h.orderly).gates.orderly h.orderly
      ids := hhappens.ids ▸ h.ids
      places := hhappens.places h.places
      summaries := fun _ _ ↦ hhappens.summaries h.places h.summaries
      resolved := by
        have hkept := h.resolved
        have hmoved := hhappens.resolved h.summaries
        omega
      settled := fun id ↦ hhappens.settled id (h.settled id)
      claimed := fun hallow id ↦
        (hhappens.claimed (h.upheld.allows.trans hallow) id).trans (h.claimed hallow id) }

theorem Kept.reaches (h : s.Kept g) (hreaches : Reaches replayCalls s s') : s'.Kept g :=
  hreaches.keeps (fun _ _ ↦ Kept.step) h

/-- What every move keeps, while the accounts come out even, is kept by any number of moves. -/
theorem Kept.keeps {P : Session CallNote → Prop} (h : s.Kept g)
    (hstep : ∀ t t' : Session CallNote, t.Kept g → P t → Happens t t' → P t')
    (hreaches : Reaches replayCalls s s') (hs : P s) : P s' := by
  suffices hboth : s'.Kept g ∧ P s' from hboth.2
  refine Reaches.keeps (P := fun t ↦ t.Kept g ∧ P t) ?_ hreaches ⟨h, hs⟩
  rintro t t' ⟨hkept, ht⟩ hmove
  exact ⟨hkept.step hmove,
    hstep t t' hkept ht (happens_of_move hkept.upheld hkept.memory hmove)⟩

/-- Nothing has come to a gateway yet. -/
theorem kept_start (hmemory : g.depot.letters.faults = {}) (hquiet : g.pool.fresh = [])
    (horderly : g.depot.gates.Orderly) (hids : (g.depot.letters.entries.map DeadLetter.id).Nodup) :
    Kept g ⟨g, [], []⟩ where
  upheld := upheld_start hquiet
  memory := hmemory
  orderly := horderly
  ids := hids
  places := by simp
  summaries := by simp
  resolved := Nat.zero_add _
  settled _ := rfl
  claimed _ _ := Nat.zero_add _

end Session

end Courier

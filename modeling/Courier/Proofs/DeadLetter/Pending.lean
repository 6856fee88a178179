import Courier.Proofs.DeadLetter.Reports
import Courier.Proofs.Gateway.Books

/-!
# The replays of all pending entries

Whoever asks for the replay of all pending entries lists them first and then takes them up one by
one, the oldest first, while others may claim them too. `Session.Lists` is the move that lists them,
and `Gateway.Task.Along` says how far the caller has come since: what was reported to it, the entry
whose replay is under way and those that wait are, in this order, the entries that it listed.

Whatever comes of the replay of an entry, the entry is not pending afterwards. So when a caller
returns, every entry that it listed has been claimed, by itself or by someone else, and the counts
it returns are those of the results reported to it (`Session.pending_accounted`). A caller is turned
down only if someone else was faster, so one that runs alone is not turned down at all
(`Gateway.Task.Undisturbed`).
-/

set_option autoImplicit false
set_option relaxedAutoImplicit false

namespace Courier

/-! ### How far a caller has come -/

/-- How far a caller has come with the entries that it has listed, by the entries of which something
was reported to it. -/
inductive Gateway.Task.Along (ids reported : List EntryId) : Gateway.Task → Prop where
  | replaying {waiting : List EntryId} {current : Option Replay} {summary : ReplaySummary}
      (h : reported ++ (current.map Replay.id).toList ++ waiting = ids) :
      Along ids reported (.replayAll (.replaying waiting current summary))
  | ended {summary : ReplaySummary} (h : reported = ids) :
      Along ids reported (.ended (.replayedAll (.ok summary)))

namespace Gateway.Task

variable {task task' : Task} {ids reported : List EntryId} {letters : DeadLetterStore} {t : Replay}
  {turn : Turn Replay (Except StoreError ReplayOutcome)} {d site : Depot} {notes : List ReplayNote}

theorem Along.idles (h : Along ids reported task) (hidles : Idles letters task task') :
    Along ids reported task' := by
  cases hidles with
  | lists => cases h
  | begins =>
    cases h with
    | replaying h =>
      refine .replaying ?_
      rw [← h]
      simp
  | finishes =>
    cases h with
    | replaying h =>
      refine .ended ?_
      rw [← h]
      simp

/-- What is reported to a caller is reported of the entry whose replay was under way. -/
theorem Along.carries (h : Along ids reported task) (ht : task.replay? = some t)
    (hmoved : t.Moved d turn site notes) (hcarries : Carries task turn task') :
    Along ids (reported ++ turn.results.map fun _ ↦ t.id) task' := by
  cases hcarries with
  | single => cases h
  | @goes waiting t' next summary =>
    obtain rfl := Option.some.inj ht
    cases h with
    | replaying h =>
      refine .replaying ?_
      rw [← h]
      simp [Turn.results, hmoved.id_eq]
  | counts =>
    obtain rfl := Option.some.inj ht
    cases h with
    | replaying h =>
      refine .replaying ?_
      rw [← h]
      simp [Turn.results]
  | fails => exact absurd rfl (hmoved.ne_backend _)

/-! ### Alone -/

/-- Nobody takes from a caller what it has listed: what it has yet to replay is pending. -/
inductive Undisturbed (letters : DeadLetterStore) : Task → Prop where
  | replaying {waiting : List EntryId} {current : Option Replay} {summary : ReplaySummary}
      (hnodup : ((current.map Replay.id).toList ++ waiting).Nodup)
      (hcurrent : ∀ t ∈ current, t.phase = .begun → letters.status? t.id = some .pending)
      (hwaiting : ∀ id ∈ waiting, letters.status? id = some .pending)
      (hrejected : summary.rejected = 0) :
      Undisturbed letters (.replayAll (.replaying waiting current summary))
  | ended {summary : ReplaySummary} (hrejected : summary.rejected = 0) :
      Undisturbed letters (.ended (.replayedAll (.ok summary)))

theorem Undisturbed.idles (h : Undisturbed letters task) (hidles : Idles letters task task') :
    Undisturbed letters task' := by
  cases hidles with
  | lists => cases h
  | begins =>
    cases h with
    | replaying hnodup _ hwaiting hrejected =>
      refine .replaying hnodup (fun t ht _ ↦ ?_)
        (fun id hid ↦ hwaiting id (List.mem_cons_of_mem _ hid)) hrejected
      obtain rfl := Option.some.inj ht
      exact hwaiting _ List.mem_cons_self
  | finishes =>
    cases h with
    | replaying _ _ _ hrejected => exact .ended hrejected

/-- The replay under way is not turned down, and moves no entry but its own. -/
theorem Undisturbed.carries (h : Undisturbed d.letters task) (ht : task.replay? = some t)
    (hstep : t.step d = some (turn, site)) (hmoved : t.Moved d turn site notes)
    (hcarries : Carries task turn task') : Undisturbed site.letters task' := by
  cases hcarries with
  | single => cases h
  | goes =>
    obtain rfl := Option.some.inj ht
    cases h with
    | replaying hnodup _ hwaiting hrejected =>
      refine .replaying ?_ (fun u hu hbegun ↦ ?_) (fun id hid ↦ ?_) hrejected
      · rwa [Option.map_some, hmoved.id_eq]
      · obtain rfl := Option.some.inj hu
        exact absurd hbegun (Replay.phase_of_step hstep)
      · rw [hmoved.status?_of_ne fun heq ↦ (List.nodup_cons.mp hnodup).1 (heq ▸ hid)]
        exact hwaiting id hid
  | @counts _ _ summary summary' result hcount =>
    obtain rfl := Option.some.inj ht
    cases h with
    | replaying hnodup hcurrent hwaiting hrejected =>
      refine .replaying (List.nodup_cons.mp hnodup).2 (by simp) (fun id hid ↦ ?_) ?_
      · rw [hmoved.status?_of_ne fun heq ↦ (List.nodup_cons.mp hnodup).1 (heq ▸ hid)]
        exact hwaiting id hid
      · cases result with
        | error reason => exact absurd rfl (hmoved.ne_error_of_pending (hcurrent _ rfl))
        | ok outcome =>
          cases outcome <;> obtain rfl := Except.ok.inj hcount <;> exact hrejected
  | fails => exact absurd rfl (hmoved.ne_backend _)

theorem isDone_of_idles (h : Idles letters task task') : task.isDone = false := by
  cases h <;> rfl

/-- The pending entries have been listed. -/
def HasListed : Task → Prop
  | .replayAll (.replaying _ _ _) => True
  | .ended (.replayedAll _) => True
  | _ => False

theorem begun_of_hasListed {run : Batch.DispatchStep} {g g' : Gateway}
    (hmemory : g.depot.letters.faults = {}) (htask : task.Replays)
    (hstep : task.stepBy run g = some (task', g')) (hbefore : ¬ task.HasListed)
    (hafter : task'.HasListed) : task = .replayAll .begun := by
  obtain ⟨t, turn, d, -, -, -, hcarries⟩ | ⟨-, -, hidles⟩ := carries_or_idles hmemory htask hstep
  · cases hcarries with
    | @single t turn => cases turn <;> exact hafter.elim
    | goes | counts | fails => exact absurd trivial hbefore
  · cases hidles with
    | lists => rfl
    | begins | finishes => exact absurd trivial hbefore

end Gateway.Task

/-! ### The callers of a session -/

namespace Session

variable {s s' s₁ : Session CallNote} {g : Gateway} {place : ℕ} {ids : List EntryId}

/-- A caller lists the pending entries. -/
def Lists (s s₁ : Session CallNote) (place : ℕ) : Prop :=
  ∃ a choice task gateway, s.actors[place]? = some a ∧ a.task = .replayAll .begun ∧
    a.task.stepBy (Dispatch.stepOne choice) s.gateway = some (task, gateway) ∧
    s₁ = s.turned place a task gateway (replayCalls.note choice a.task s.gateway)

theorem Lists.move (h : s.Lists s₁ place) : Move replayCalls s s₁ := by
  obtain ⟨a, choice, task, gateway, hactor, -, hstep, rfl⟩ := h
  exact .turn hactor hstep

theorem Lists.length_eq (h : s.Lists s₁ place) : s₁.actors.length = s.actors.length := by
  obtain ⟨a, choice, task, gateway, -, -, -, rfl⟩ := h
  exact List.length_set

/-- A caller that has listed them waits to take up the first. -/
theorem Lists.eq (h : s.Lists s₁ place) (hmemory : s.depot.letters.faults = {}) :
    ∃ a, s.actors[place]? = some a ∧ a.task = .replayAll .begun ∧
      s₁ = s.turned place a (.replayAll
        (.replaying ((s.depot.letters.inStatus .pending).map DeadLetter.id) none {}))
        s.gateway [] := by
  obtain ⟨a, choice, task, gateway, hactor, htask, hstep, rfl⟩ := h
  have hnone : a.task.replay? = none := by rw [htask]; rfl
  have hnote : replayCalls.note choice a.task s.gateway = [] := by
    simp only [replayCalls, hnone, note_of_idle choice hnone]
    rfl
  obtain ⟨t, turn, d, ht, -⟩ | ⟨rfl, -, hidles⟩ :=
    Gateway.Task.carries_or_idles hmemory (by rw [htask]; trivial) hstep
  · exact absurd (ht.symm.trans hnone) (by simp)
  · rw [htask] at hidles
    cases hidles
    exact ⟨a, hactor, htask, by rw [hnote]; rfl⟩

/-- Whoever has listed the pending entries did so at some moment. -/
theorem listed_of_reaches (hkept : Kept g ⟨g, [], []⟩)
    (hreaches : Reaches replayCalls ⟨g, [], []⟩ s) :
    ∀ place a, s.actors[place]? = some a → a.task.HasListed → ∃ s₀ s₁,
      Reaches replayCalls ⟨g, [], []⟩ s₀ ∧ s₀.Lists s₁ place ∧ Reaches replayCalls s₁ s := by
  induction hreaches with
  | refl => simp
  | @tail s s' hbefore hmove ih =>
    have hearlier : ∀ {place a}, s.actors[place]? = some a → a.task.HasListed → ∃ s₀ s₁,
        Reaches replayCalls ⟨g, [], []⟩ s₀ ∧ s₀.Lists s₁ place ∧ Reaches replayCalls s₁ s' := by
      intro place a hactor hlisted
      obtain ⟨s₀, s₁, hstart, hlists, hrest⟩ := ih place a hactor hlisted
      exact ⟨s₀, s₁, hstart, hlists, hrest.tail hmove⟩
    have hkept' := hkept.reaches hbefore
    intro place a' hactor' hlisted'
    cases hmove with
    | @turn mover choice a task gateway hactor hstep =>
      obtain ⟨rfl, rfl⟩ | ⟨-, hactor'⟩ := actor_turned hactor hactor'
      · by_cases hlisted : a.task.HasListed
        · exact hearlier hactor hlisted
        · have hbegun := Gateway.Task.begun_of_hasListed hkept'.memory
            (hkept'.upheld.tasks a (List.mem_of_getElem? hactor)) hstep hlisted hlisted'
          exact ⟨s, _, hbefore, ⟨a, choice, task, gateway, hactor, hbegun, hstep, rfl⟩, .refl⟩
      · exact hearlier hactor' hlisted'
    | begin =>
      rw [begun_of_quiet (s := s) hkept'.upheld.quiet] at hactor'
      exact hearlier hactor' hlisted'
    | come hcomes =>
      obtain hactor' | ⟨-, rfl⟩ := actor_come hactor'
      · exact hearlier hactor' hlisted'
      · obtain ⟨id, rfl⟩ | rfl := hcomes <;> exact hlisted'.elim
    | pass => exact hearlier hactor' hlisted'

/-! ### From the list to the return -/

/-- A caller is on its way through the entries that it has listed, and what has been reported to it
is not pending. -/
structure Pursues (s : Session CallNote) (place : ℕ) (ids : List EntryId) : Prop where
  along : ∃ a, s.actors[place]? = some a ∧ a.task.Along ids ((s.results place).map Prod.fst)
  taken : ∀ id ∈ (s.results place).map Prod.fst, s.depot.letters.status? id ≠ some .pending

theorem Pursues.step (h : s.Pursues place ids) (hhappens : Happens s s') :
    s'.Pursues place ids := by
  obtain ⟨⟨a, hactor, halong⟩, htaken⟩ := h
  have hplace : place < s.actors.length := (List.getElem?_eq_some_iff.mp hactor).1
  cases hhappens with
  | @replays mover b t turn d task hmover ht hstep hmoved hcarries =>
    by_cases hsame : place = mover
    · subst hsame
      obtain rfl := Option.some.inj (hactor.symm.trans hmover)
      have hids : (turn.results.map (Prod.mk t.id)).map Prod.fst =
          turn.results.map fun _ ↦ t.id := by
        simp [List.map_map, Function.comp_def]
      refine ⟨⟨_, List.getElem?_set_self hplace, ?_⟩, ?_⟩
      · rw [results_callNotes, List.map_append, hids]
        exact halong.carries ht hmoved hcarries
      · rw [results_callNotes, List.map_append, hids]
        intro id hid
        obtain hid | hid := List.mem_append.mp hid
        · exact hmoved.ne_pending (htaken id hid)
        · cases turn with
          | going t' => simp [Turn.results] at hid
          | done result =>
            obtain rfl : id = t.id := by simpa [Turn.results] using hid
            exact hmoved.ne_pending_of_done
    · refine ⟨⟨a, ?_, ?_⟩, ?_⟩
      · exact (List.getElem?_set_ne (Ne.symm hsame)).trans hactor
      · rw [results_turned_of_ne hsame]
        exact halong
      · rw [results_turned_of_ne hsame]
        exact fun id hid ↦ hmoved.ne_pending (htaken id hid)
  | @idles mover b task hmover hnone hidles =>
    refine ⟨?_, htaken⟩
    by_cases hsame : place = mover
    · subst hsame
      obtain rfl := Option.some.inj (hactor.symm.trans hmover)
      exact ⟨_, List.getElem?_set_self hplace, halong.idles hidles⟩
    · exact ⟨a, (List.getElem?_set_ne (Ne.symm hsame)).trans hactor, halong⟩
  | comes => exact ⟨⟨a, (List.getElem?_append_left hplace).trans hactor, halong⟩, htaken⟩
  | @passes gateway hletters =>
    refine ⟨⟨a, hactor, halong⟩, fun id hid ↦ ?_⟩
    show gateway.depot.letters.status? id ≠ _
    rw [hletters]
    exact htaken id hid

/-- A caller that has listed the pending entries is at their beginning. -/
theorem Kept.pursues (h : s.Kept g) (hlists : s.Lists s₁ place) :
    s₁.Pursues place ((s.depot.letters.inStatus .pending).map DeadLetter.id) := by
  obtain ⟨a, hactor, htask, rfl⟩ := hlists.eq h.memory
  have hnone : s.results place = [] := by
    have hsummary := h.summaries place a hactor
    rw [htask] at hsummary
    rw [← List.length_eq_zero_iff, ← List.length_map Prod.snd, ← ReplaySummary.total_tally,
      ← hsummary]
    rfl
  have hsame (task : Gateway.Task) : (s.turned place a task s.gateway []).results place = [] :=
    hnone
  refine ⟨⟨_, List.getElem?_set_self (List.getElem?_eq_some_iff.mp hactor).1, ?_⟩, ?_⟩
  · rw [hsame]
    exact .replaying rfl
  · rw [hsame]
    simp

/-- Only one caller is at work, and what it has yet to replay is pending. -/
structure Alone (s : Session CallNote) (place : ℕ) : Prop where
  others : ∀ other b, other ≠ place → s.actors[other]? = some b → b.task.isDone
  undisturbed : ∀ a, s.actors[place]? = some a → a.task.Undisturbed s.depot.letters

/-- While nobody else is at work only the one caller moves. -/
theorem alone_turned {a : Actor} {task : Gateway.Task} {gateway : Gateway} {notes : List CallNote}
    (hothers : ∀ other b, other ≠ place → s.actors[other]? = some b → b.task.isDone)
    (hactor : s.actors[place]? = some a)
    (hundisturbed : task.Undisturbed gateway.depot.letters) :
    (s.turned place a task gateway notes).Alone place := by
  refine ⟨fun other b hne hb ↦ ?_, fun b hb ↦ ?_⟩
  · obtain ⟨heq, -⟩ | ⟨-, hb⟩ := actor_turned hactor hb
    · exact absurd heq hne
    · exact hothers other b hne hb
  · obtain ⟨-, rfl⟩ | ⟨hne, -⟩ := actor_turned hactor hb
    · exact hundisturbed
    · exact absurd rfl hne

theorem Alone.step (h : s.Alone place) (hhappens : Happens s s')
    (hlength : s'.actors.length = s.actors.length) : s'.Alone place := by
  cases hhappens with
  | @replays mover a t turn d task hmover ht hstep hmoved hcarries =>
    obtain rfl : mover = place := by
      by_contra hne
      rw [Gateway.Task.replay?_of_isDone (h.others mover a hne hmover)] at ht
      exact absurd ht (by simp)
    exact alone_turned h.others hmover ((h.undisturbed a hmover).carries ht hstep hmoved hcarries)
  | @idles mover a task hmover hnone hidles =>
    obtain rfl : mover = place := by
      by_contra hne
      have hdone := h.others mover a hne hmover
      rw [Gateway.Task.isDone_of_idles hidles] at hdone
      exact absurd hdone (by simp)
    exact alone_turned h.others hmover ((h.undisturbed a hmover).idles hidles)
  | comes =>
    rw [List.length_append] at hlength
    exact absurd hlength (by simp)
  | @passes gateway hletters =>
    refine ⟨h.others, fun a hactor ↦ ?_⟩
    show a.task.Undisturbed gateway.depot.letters
    rw [hletters]
    exact h.undisturbed a hactor

theorem Happens.length_le (h : Happens s s') : s.actors.length ≤ s'.actors.length := by
  cases h with
  | replays | idles => exact (List.length_set ..).ge
  | comes => simp
  | passes => exact Nat.le_refl _

/-- If nobody else comes, who is alone stays so. -/
theorem Kept.alone (hkept : s.Kept g) (halone : s.Alone place) (hreaches : Reaches replayCalls s s')
    (hlength : s'.actors.length = s.actors.length) : s'.Alone place := by
  refine (hkept.keeps (P := fun t ↦ s.actors.length ≤ t.actors.length ∧
    (t.actors.length = s.actors.length → t.Alone place)) ?_ hreaches
      ⟨Nat.le_refl _, fun _ ↦ halone⟩).2 hlength
  rintro t t' - ⟨hle, halone⟩ hhappens
  have hle' := hhappens.length_le
  exact ⟨hle.trans hle', fun heq ↦ (halone (by omega)).step hhappens (by omega)⟩

theorem Kept.alone_of_lists (h : s.Kept g) (hlists : s.Lists s₁ place)
    (hothers : ∀ other b, other ≠ place → s.actors[other]? = some b → b.task.isDone) :
    s₁.Alone place := by
  obtain ⟨a, hactor, -, rfl⟩ := hlists.eq h.memory
  refine alone_turned hothers hactor (.replaying ?_ (by simp) (fun id hid ↦ ?_) rfl)
  · exact DeadLetterStore.nodup_ids_inStatus h.ids
  · obtain ⟨e, he, rfl⟩ := List.mem_map.mp hid
    exact DeadLetterStore.status?_of_mem_inStatus h.ids he

/-! ### The account -/

/-- What a caller has taken up so far are the oldest of the entries that it listed. -/
theorem Pursues.taken_up (h : s.Pursues place ids) {a : Actor}
    (hactor : s.actors[place]? = some a) :
    (s.results place).map Prod.fst ++ (a.task.replay?.map Replay.id).toList <+: ids := by
  obtain ⟨⟨b, hb, halong⟩, -⟩ := h
  obtain rfl := Option.some.inj (hb.symm.trans hactor)
  generalize (s.results place).map Prod.fst = reported at halong ⊢
  generalize b.task = task at halong ⊢
  cases halong with
  | @replaying _ current _ h =>
    rw [← h]
    cases current <;> exact List.prefix_append _ _
  | ended h => simp [h, Gateway.Task.replay?]

/-- A caller returns the counts, and something was reported to it of all that it has listed. -/
theorem Pursues.returned (h : s.Pursues place ids) {a : Actor} (hactor : s.actors[place]? = some a)
    (hdone : a.task.isDone) :
    (∃ summary, a.task = .ended (.replayedAll (.ok summary))) ∧
      (s.results place).map Prod.fst = ids := by
  obtain ⟨⟨b, hb, halong⟩, -⟩ := h
  obtain rfl := Option.some.inj (hb.symm.trans hactor)
  generalize (s.results place).map Prod.fst = reported at halong ⊢
  generalize b.task = task at halong hdone ⊢
  cases halong with
  | replaying => exact absurd hdone (by simp [Gateway.Task.isDone])
  | ended h => exact ⟨⟨_, rfl⟩, h⟩

/-- An entry that was pending and is not has been claimed once. -/
theorem Kept.claims_eq_one (h : s.Kept g) (h' : s'.Kept g) (hallow : g.depot.allowAbandoned = false)
    {id : EntryId} (hbefore : s.depot.letters.status? id = some .pending)
    (hafter : s'.depot.letters.status? id ≠ some .pending) : s'.plain.claims id = 1 := by
  have hclaimed := h.claimed hallow id
  have hclaimed' := h'.claimed hallow id
  rw [if_pos hbefore] at hclaimed
  rw [if_neg hafter] at hclaimed'
  have hstart : g.depot.letters.status? id = some .pending := by
    by_contra hne
    rw [if_neg hne] at hclaimed
    omega
  rwa [if_pos hstart, Nat.add_zero] at hclaimed'

/-- Every move of a session leaves replays what they rely on. -/
theorem Kept.upholds (h : s.Kept g) (hreaches : Reaches replayCalls s s') :
    s.depot.Upholds s'.depot :=
  h.keeps (P := fun t ↦ s.depot.Upholds t.depot)
    (fun _ _ hkept hupholds hhappens ↦ hupholds.trans (hhappens.upholds hkept.orderly)) hreaches
    (Depot.upholds_of_keeps rfl rfl rfl (.refl _))

theorem Pursues.reaches (h : s.Pursues place ids) (hkept : s.Kept g)
    (hreaches : Reaches replayCalls s s') : s'.Pursues place ids :=
  hkept.keeps (P := fun t ↦ t.Pursues place ids)
    (fun _ _ _ hpursues hhappens ↦ hpursues.step hhappens) hreaches h

theorem inFlight_of_done {s : Session ReplayNote} (hdone : ∀ a ∈ s.actors, a.task.isDone)
    (id : EntryId) : s.inFlight id = 0 := by
  refine List.countP_eq_zero.mpr fun a ha ↦ ?_
  simp [Gateway.Task.holds, Gateway.Task.replay?_of_isDone (hdone a ha)]

/-- The replay of all pending entries accounts for everything, while any number of callers ask for
it or for the replay of single entries, in any order, over a store in memory. Callers count what is
reported to them, and the counts of resolved entries add up to the number of entries that have been
resolved. A caller may always go on and returns in the end, since every move leaves it what it
relies on, and whoever has returned has listed the pending entries. From then on it takes them up
one by one, the oldest first; it returns the counts, whose sum is the number of entries listed, and
then none of those is pending any more. If nobody else is at work none is rejected. Unless abandoned
entries may be claimed again, each entry that someone has listed is replayed once, and once all have
returned, one of them was told, once, what came of it. -/
theorem pending_accounted {g : Gateway} (hmemory : g.depot.letters.faults = {})
    (hquiet : g.pool.fresh = []) (horderly : g.depot.gates.Orderly)
    (hids : (g.depot.letters.entries.map DeadLetter.id).Nodup) {s : Session CallNote}
    (hreaches : Reaches replayCalls ⟨g, [], []⟩ s) :
    (∀ (place : ℕ) (a : Actor), s.actors[place]? = some a →
      a.task.summary = .tally ((s.results place).map Prod.snd)) ∧
    s.resolved + g.depot.letters.count .resolved = s.depot.letters.count .resolved ∧
    ReplayAll.Returns (.going .begun) s.depot ∧
    (∀ s', Reaches replayCalls s s' → s.depot.Upholds s'.depot) ∧
    (∀ (place : ℕ) (a : Actor) (result : Except StoreError ReplaySummary),
      s.actors[place]? = some a → a.task = .ended (.replayedAll result) →
      ∃ s₀ s₁, Reaches replayCalls ⟨g, [], []⟩ s₀ ∧ s₀.Lists s₁ place ∧
        Reaches replayCalls s₁ s) ∧
    ∀ (s₁ s' : Session CallNote) (place : ℕ), s.Lists s₁ place → Reaches replayCalls s₁ s' →
      ∃ (listed : List DeadLetter) (a : Actor),
        listed.Perm (s.depot.letters.entries.filter fun e ↦ e.status = .pending) ∧
        listed.Pairwise (fun e e' ↦ e.comesBefore e' = true) ∧
        s'.actors[place]? = some a ∧
        (s'.results place).map Prod.fst ++ (a.task.replay?.map Replay.id).toList <+:
          listed.map DeadLetter.id ∧
        (a.task.isDone →
          (∃ summary, a.task = .ended (.replayedAll (.ok summary)) ∧
            summary.total = s.depot.letters.count .pending ∧
            ((∀ (other : ℕ) (b : Actor), other ≠ place → s.actors[other]? = some b →
              b.task.isDone) → s'.actors.length = s.actors.length → summary.rejected = 0)) ∧
          ∀ e ∈ listed, s'.depot.letters.status? e.id ≠ some .pending ∧
            (g.depot.allowAbandoned = false → s'.plain.claims e.id = 1 ∧
              ((∀ b ∈ s'.actors, b.task.isDone) → s'.settlements e.id = 1))) := by
  have hstart : Kept g ⟨g, [], []⟩ := kept_start hmemory hquiet horderly hids
  have hkept := hstart.reaches hreaches
  refine ⟨hkept.summaries, hkept.resolved, ReplayAll.returns hkept.orderly, fun s' hrest ↦ ?_,
    fun place a result hactor htask ↦ ?_, fun s₁ s' place hlists hrest ↦ ?_⟩
  · exact hkept.upholds hrest
  · exact listed_of_reaches hstart hreaches place a hactor (by rw [htask]; trivial)
  · have hkept₁ := hkept.step hlists.move
    have hkept' := hkept₁.reaches hrest
    have hpursues := (hkept.pursues hlists).reaches hkept₁ hrest
    obtain ⟨a, hactor, -⟩ := hpursues.along
    refine ⟨s.depot.letters.inStatus .pending, a, DeadLetterStore.inStatus_perm _ _,
      DeadLetterStore.inStatus_pairwise _ _, hactor, hpursues.taken_up hactor, fun hdone ↦ ?_⟩
    obtain ⟨⟨summary, htask⟩, hreported⟩ := hpursues.returned hactor hdone
    refine ⟨⟨summary, htask, ?_, fun hothers hlength ↦ ?_⟩, fun e he ↦ ?_⟩
    · have hsummary := hkept'.summaries place a hactor
      rw [htask] at hsummary
      have hlength := congrArg List.length hreported
      rw [List.length_map, List.length_map, DeadLetterStore.length_inStatus] at hlength
      calc summary.total
        _ = (ReplaySummary.tally ((s'.results place).map Prod.snd)).total :=
          congrArg ReplaySummary.total hsummary
        _ = (s'.results place).length := by rw [ReplaySummary.total_tally, List.length_map]
        _ = s.depot.letters.count .pending := hlength
    · have halone := hkept₁.alone (hkept.alone_of_lists hlists hothers) hrest
        (hlength.trans hlists.length_eq.symm)
      have hundisturbed := halone.undisturbed a hactor
      rw [htask] at hundisturbed
      cases hundisturbed with
      | ended hrejected => exact hrejected
    · have hbefore := DeadLetterStore.status?_of_mem_inStatus hkept.ids he
      have hafter := hpursues.taken e.id (hreported ▸ List.mem_map_of_mem he)
      refine ⟨hafter, fun hallow ↦ ?_⟩
      have hclaims := hkept.claims_eq_one hkept' hallow hbefore hafter
      refine ⟨hclaims, fun hidle ↦ ?_⟩
      have hsettled := hkept'.settled e.id
      rw [inFlight_of_done hidle, hclaims] at hsettled
      exact hsettled.symm

/-- Two callers ask for the replay of all pending entries. -/
def twoCallers : Session CallNote :=
  ⟨withLetter, [.new (.replayAll .begun), .new (.replayAll .begun)], []⟩

/-- The first of two callers has listed the entry. -/
def oneListed : Option (Session CallNote) := play replayCalls [(0, 0)] twoCallers

/-- Then both take it up in turn until they have returned. -/
def bothReturned : Option (Session CallNote) :=
  oneListed.bind <| play replayCalls [(1, 0), (0, 0), (1, 0), (0, 0), (1, 0), (1, 0), (0, 0),
    (0, 0), (0, 0), (0, 0), (0, 0)]

/-- The first claims and resolves the entry and the second is turned down, so that both account for
one entry; it has been replayed once, and one of them was told. -/
theorem pending_accounted_together :
    ∃ s₁ s' a, twoCallers.Lists s₁ 0 ∧ Reaches replayCalls s₁ s' ∧ s'.actors[0]? = some a ∧
      (s'.actors.map fun b ↦ (b.task.summary.resolved, b.task.summary.rejected)) =
        [(1, 0), (0, 1)] ∧
      (∃ summary, a.task = .ended (.replayedAll (.ok summary)) ∧ summary.total = 1) ∧
      s'.plain.claims ⟨7⟩ = 1 ∧ s'.settlements ⟨7⟩ = 1 := by
  have hreaches : Reaches replayCalls ⟨withLetter, [], []⟩ twoCallers :=
    .head (.come (.inr rfl)) (.single (.come (.inr rfl)))
  have horderly : withLetter.depot.gates.Orderly := fun resource gate h ↦ by cases h
  have hlists : twoCallers.Lists (oneListed.get rfl) 0 :=
    ⟨.new (.replayAll .begun), 0, _, _, rfl, rfl, rfl, rfl⟩
  have hplay : (bothReturned.map fun s ↦ (s.actors.all fun b ↦ b.task.isDone,
      s.actors.map fun b ↦ (b.task.summary.resolved, b.task.summary.rejected))) =
        some (true, [(1, 0), (0, 1)]) := by decide +kernel
  obtain ⟨s', hs', heq⟩ := Option.map_eq_some_iff.mp hplay
  obtain ⟨hdone, hcounts⟩ := Prod.mk.inj heq
  have hidle : ∀ b ∈ s'.actors, b.task.isDone := List.all_eq_true.mp hdone
  have hrest : Reaches replayCalls (oneListed.get rfl) s' := by
    obtain ⟨s₁, hone, hplayed⟩ := Option.bind_eq_some_iff.mp hs'
    obtain rfl : oneListed.get rfl = s₁ := Option.get_of_eq_some _ hone
    exact reaches_of_play hplayed
  obtain ⟨-, -, -, -, -, haccounted⟩ :=
    pending_accounted (g := withLetter) rfl rfl horderly (List.nodup_singleton _) hreaches
  obtain ⟨listed, a, hperm, -, hactor, -, hreturned⟩ := haccounted _ s' 0 hlists hrest
  obtain ⟨⟨summary, htask, htotal, -⟩, hentries⟩ :=
    hreturned (hidle a (List.mem_of_getElem? hactor))
  obtain ⟨-, hclaimed⟩ := hentries _ (hperm.mem_iff.mpr (List.mem_singleton_self _))
  obtain ⟨hclaims, hsettled⟩ := hclaimed rfl
  exact ⟨_, s', a, hlists, hrest, hactor, hcounts, ⟨summary, htask, htotal⟩, hclaims,
    hsettled hidle⟩

end Session

end Courier

import Courier.Proofs.DeadLetter.Conduct
import Courier.Proofs.DeadLetter.Unsettled
import Courier.Proofs.Passage

/-!
# Settling

A replay that knows its outcome asks the store to settle the entry. As long as the medium fails it
asks again, three times in all, after a pause that grows with each attempt; every other answer ends
the replay. `Replay.asks` are the calls to the store that a replay makes, and `Replay.Settling` says
how far it has come with those that are to settle its entry: it tries, or the answer to the last
call is its end.

If no one else moves the entry, the store refuses to settle it only because of its medium. So the
entry stays in processing just if the replay ends in an error, which takes three failures in a row;
and what a replay says of its entry is how it left it (`Replay.settles_in_three_calls`).
-/

set_option autoImplicit false
set_option relaxedAutoImplicit false

namespace Courier

/-- A request to move an entry, and what the store answered. -/
structure StoreCall where
  moment : Moment
  answer : Except StoreError DeadLetter

/-- The medium failed. -/
def StoreCall.failed (c : StoreCall) : Bool :=
  match c.answer with
  | .error (.backend _) => true
  | _ => false

theorem StoreCall.failed_iff (c : StoreCall) :
    c.failed = true ↔ ∃ text, c.answer = .error (.backend text) := by
  obtain ⟨moment, answer⟩ := c
  cases answer with
  | ok e => simp [failed]
  | error reason => cases reason <;> simp [failed]

/-- The end of the pause after a number of attempts to settle an entry. -/
def StoreCall.pauseEnd (c : StoreCall) (attempts : ℕ) : ℕ :=
  c.moment.deadline (.ofMillis (100 * attempts))

namespace Replay

variable {t : Replay} {d d' site : Depot} {id : EntryId} {outcome : ReplayOutcome}
  {turn : Turn Replay (Except StoreError ReplayOutcome)} {calls : List StoreCall}

/-- What the store answers to a replay that settles its entry. -/
def settleAnswer (t : Replay) (d : Depot) (outcome : ReplayOutcome) :
    Except StoreError DeadLetter × DeadLetterStore :=
  d.letters.transition t.id [.processing] (finalStatus outcome) d.moment.stamp

/-- The requests to move its entry that a replay makes with its next move. -/
def asks (t : Replay) (d : Depot) : List StoreCall :=
  match t.phase with
  | .begun => [⟨d.moment, (t.claimAnswer d).1⟩]
  | .calling .. => []
  | .settling outcome .. => [⟨d.moment, (t.settleAnswer d outcome).1⟩]

/-- A replay among others, whose hands may change the depot in some ways but do not turn back the
clock. -/
def among (hands : Turn Replay (Except StoreError ReplayOutcome) → Depot → Depot → Prop) :
    Passage.Rules Replay (Except StoreError ReplayOutcome) Depot StoreCall where
  step := step
  note := asks
  others turn d d' := d.clock.now ≤ d'.clock.now ∧ hands turn d d'

/-! ### The calls that settle an entry -/

/-- Attempts after which there is one more keep their pauses. -/
def Spaced (calls : List StoreCall) : Prop :=
  ∀ n c c', calls[n]? = some c → calls[n + 1]? = some c' → c.pauseEnd (n + 1) ≤ c'.moment.now

/-- How far a replay has come with settling its entry. -/
inductive Settling (id : EntryId) (outcome : ReplayOutcome) :
    Turn Replay (Except StoreError ReplayOutcome) → List StoreCall → Prop where
  /-- All calls so far have failed. -/
  | trying {calls : List StoreCall} {wake : ℕ} (hfailed : ∀ c ∈ calls, c.failed)
      (hcount : calls.length < settleAttempts) (hspaced : Spaced calls)
      (hwake : ∀ c, calls.getLast? = some c → wake = c.pauseEnd calls.length) :
      Settling id outcome (.going ⟨id, .settling outcome (calls.length + 1) wake⟩) calls
  /-- The last call has ended it: it did not fail, or no attempts are left. -/
  | ends {failures : List StoreCall} {last : StoreCall} (hfailed : ∀ c ∈ failures, c.failed)
      (hcount : failures.length < settleAttempts) (hspaced : Spaced (failures ++ [last]))
      (hlast : last.failed → failures.length + 1 = settleAttempts) :
      Settling id outcome (.done (last.answer.map fun _ ↦ outcome)) (failures ++ [last])

/-- A replay asks the store to settle its entry when its pause is over, and goes by the answer. -/
theorem settle_cases {attempt wake : ℕ}
    (hphase : t.phase = .settling outcome attempt wake) (hstep : t.step d = some (turn, site)) :
    wake ≤ d.clock.now ∧ ∃ c, t.asks d = [c] ∧ c.moment = d.moment ∧
      ((c.failed ∧ attempt < settleAttempts ∧
          turn = .going ⟨t.id, .settling outcome (attempt + 1) (c.pauseEnd attempt)⟩) ∨
        ((c.failed → settleAttempts ≤ attempt) ∧
          turn = .done (c.answer.map fun _ ↦ outcome))) := by
  simp only [step, hphase, Option.ite_none_right_eq_some, Option.some.injEq] at hstep
  obtain ⟨hwake, hsettle⟩ := hstep
  refine ⟨hwake, ⟨d.moment, (t.settleAnswer d outcome).1⟩, by rw [asks, hphase], rfl, ?_⟩
  rw [settle, ← settleAnswer] at hsettle
  rcases hanswer : t.settleAnswer d outcome with ⟨answer, letters⟩
  rw [hanswer] at hsettle
  split at hsettle
  · rename_i e _ heq
    obtain ⟨rfl, -⟩ := Prod.mk.inj heq
    obtain ⟨rfl, -⟩ := Prod.mk.inj hsettle
    exact .inr ⟨fun hfailed ↦ absurd hfailed (by simp [StoreCall.failed]), rfl⟩
  · rename_i text _ heq
    obtain ⟨rfl, -⟩ := Prod.mk.inj heq
    split_ifs at hsettle with hleft <;> obtain ⟨rfl, -⟩ := Prod.mk.inj hsettle
    · refine .inl ⟨rfl, hleft, ?_⟩
      simp only [StoreCall.pauseEnd, Duration.ofMillis, settlePause, Nat.mul_right_comm]
      rfl
    · exact .inr ⟨fun _ ↦ Nat.le_of_not_lt hleft, rfl⟩
  · rename_i reason _ hother heq
    obtain ⟨rfl, -⟩ := Prod.mk.inj heq
    obtain ⟨rfl, -⟩ := Prod.mk.inj hsettle
    refine .inr ⟨fun hfailed ↦ ?_, rfl⟩
    obtain ⟨text, htext⟩ := (StoreCall.failed_iff _).mp hfailed
    exact absurd (Except.error.inj htext) (hother text)

theorem Spaced.concat {c : StoreCall} (h : Spaced calls)
    (hlast : ∀ last, calls.getLast? = some last → last.pauseEnd calls.length ≤ c.moment.now) :
    Spaced (calls ++ [c]) := by
  intro n a b ha hb
  obtain hn | hn : n + 1 < calls.length ∨ n + 1 = calls.length := by
    have hlt := (List.getElem?_eq_some_iff.mp hb).1
    simp only [List.length_append, List.length_singleton] at hlt
    omega
  · rw [List.getElem?_append_left (by omega)] at ha hb
    exact h n a b ha hb
  · rw [List.getElem?_append_left (by omega)] at ha
    rw [hn, List.getElem?_concat_length, Option.some.injEq] at hb
    subst hb
    rw [hn]
    refine hlast a ?_
    rw [List.getLast?_eq_getElem?, ← hn]
    exact ha

/-- A replay that settles its entry goes on doing so. -/
theorem Settling.step (h : Settling id outcome (.going t) calls)
    (hstep : t.step d = some (turn, site)) : Settling id outcome turn (calls ++ t.asks d) := by
  cases h with
  | @trying _ wake hfailed hcount hspaced hwake =>
    obtain ⟨hdue, c, hasks, hmoment, ⟨hc, hleft, rfl⟩ | ⟨hlast, rfl⟩⟩ := settle_cases rfl hstep
    all_goals
      have hspaced' : Spaced (calls ++ [c]) := by
        refine hspaced.concat fun last hlast ↦ ?_
        rw [← hwake last hlast, hmoment]
        exact hdue
      rw [hasks]
    · have hlength : (calls ++ [c]).length = calls.length + 1 := by simp
      have hnext : Settling id outcome
          (.going ⟨id, .settling outcome ((calls ++ [c]).length + 1)
            (c.pauseEnd (calls ++ [c]).length)⟩)
          (calls ++ [c]) := by
        refine .trying (fun b hb ↦ ?_) (hlength ▸ hleft) hspaced' fun last hlast ↦ ?_
        · obtain hb | hb := List.mem_append.mp hb
          · exact hfailed b hb
          · exact List.mem_singleton.mp hb ▸ hc
        · rw [List.getLast?_concat, Option.some.injEq] at hlast
          rw [hlast]
      rwa [hlength] at hnext
    · refine .ends hfailed hcount hspaced' fun hc ↦ ?_
      exact Nat.le_antisymm hcount (hlast hc)

/-! ### The whole replay -/

/-- How far a replay has come with its calls to the store: the first is to claim the entry. -/
inductive Calling (id : EntryId) :
    Turn Replay (Except StoreError ReplayOutcome) → List StoreCall → Prop where
  | begun : Calling id (.going { id }) []
  | refused {claim : StoreCall} {reason : StoreError} (hclaim : claim.answer = .error reason) :
      Calling id (.done (.error reason)) [claim]
  | sending {claim : StoreCall} {entry e : DeadLetter} {c : GateCall}
      (hclaim : claim.answer = .ok entry) : Calling id (.going ⟨id, .calling e c⟩) [claim]
  | settling {claim : StoreCall} {entry : DeadLetter} {outcome : ReplayOutcome}
      {turn : Turn Replay (Except StoreError ReplayOutcome)} {calls : List StoreCall}
      (hclaim : claim.answer = .ok entry) (hsettling : Settling id outcome turn calls) :
      Calling id turn (claim :: calls)

/-- A replay that has just come to its outcome. -/
theorem settling_start (id : EntryId) (outcome : ReplayOutcome) (wake : ℕ) :
    Settling id outcome (.going ⟨id, .settling outcome 1 wake⟩) [] :=
  @Settling.trying id outcome [] wake (by simp) (by decide) (fun _ _ _ h ↦ absurd h (by simp)) (by simp)

theorem calling_of_conclude {claim : StoreCall} {entry e : DeadLetter}
    (hclaim : claim.answer = .ok entry) (phase : Replay.Phase) (d : Depot)
    (result : Except DeliveryFailure ℕ) :
    Calling id (conclude ⟨id, phase⟩ d e result).1 [claim] := by
  cases result <;> exact .settling hclaim (settling_start _ _ _)

/-- A replay goes on making its calls. -/
theorem Calling.step (h : Calling id (.going t) calls) (hstep : t.step d = some (turn, site)) :
    Calling id turn (calls ++ t.asks d) := by
  cases h with
  | begun =>
    have hadvance := advance_of_step hstep
    generalize deeds _ d = deeds at hadvance
    cases hadvance with
    | refused _ hclaim => exact .refused (by rw [hclaim])
    | misses _ hclaim => exact calling_of_conclude (congrArg Prod.fst hclaim) _ _ _
    | opens _ _ hclaim => exact .sending (congrArg Prod.fst hclaim)
    | calls hphase | delivers hphase | fails hphase | settles _ hphase =>
      exact absurd hphase (by simp)
  | sending hclaim =>
    have hadvance := advance_of_step hstep
    generalize deeds _ d = deeds at hadvance
    cases hadvance with
    | calls => exact .sending hclaim
    | delivers | fails => exact calling_of_conclude hclaim _ _ _
    | refused hphase | misses hphase | opens _ hphase | settles _ hphase =>
      exact absurd hphase (by simp)
  | settling hclaim hsettling => exact .settling hclaim (hsettling.step hstep)

/-! ### The entry -/

/-- No one else moves the entry while a replay has it. -/
def Apart (hands : Turn Replay (Except StoreError ReplayOutcome) → Depot → Depot → Prop)
    (id : EntryId) : Prop :=
  ∀ turn d d', hands turn d d' → turn ≠ .going { id } →
    d'.letters.status? id = d.letters.status? id

/-- The state of the entry fits how far its replay has come. If the replay ends in an error after it
has claimed the entry, the medium has failed and the entry is still in processing. -/
def Stands (id : EntryId) (claimed : Prop) (d : Depot) :
    Turn Replay (Except StoreError ReplayOutcome) → Prop
  | .going t => t.id = id ∧ (t.phase ≠ .begun → d.letters.status? id = some .processing)
  | .done (.ok outcome) => d.letters.status? id = some (finalStatus outcome)
  | .done (.error reason) => claimed →
    d.letters.status? id = some .processing ∧ ∃ text, reason = .backend text

/-- The moves of a replay keep its entry in the state that fits. -/
theorem stands_of_step {claimed claimed' : Prop} (h : Stands id claimed d (.going t))
    (hstep : t.step d = some (turn, site))
    (hrefused : t.phase = .begun → ∀ reason, turn = .done (.error reason) → ¬ claimed') :
    Stands id claimed' site turn := by
  obtain ⟨rfl, hprocessing⟩ := h
  have hfares := fares_of_step hprocessing hstep
  generalize t.notes d = notes at hfares
  cases hfares with
  | refused hphase => exact fun h ↦ absurd h (hrefused hphase _ rfl)
  | claims _ hget _ hentries _ hid =>
    refine ⟨hid, fun _ ↦ ?_⟩
    rw [DeadLetterStore.status?_congr hentries, DeadLetterStore.status?_withMoved hget, if_pos rfl]
  | goes hphase hentries _ hid =>
    exact ⟨hid, fun _ ↦ (DeadLetterStore.status?_congr hentries _).trans (hprocessing hphase)⟩
  | settles _ hget _ hentries =>
    show DeadLetterStore.status? _ _ = _
    rw [DeadLetterStore.status?_congr hentries, DeadLetterStore.status?_withMoved hget, if_pos rfl]
  | abandons hphase _ hentries =>
    exact fun _ ↦ ⟨(DeadLetterStore.status?_congr hentries _).trans
      (hprocessing (by simp [hphase])), _, rfl⟩

/-- So do the others, if they do not move it. -/
theorem stands_of_apart
    {hands : Turn Replay (Except StoreError ReplayOutcome) → Depot → Depot → Prop}
    {claimed : Prop} (hapart : Apart hands id) (hhands : hands turn d d')
    (h : Stands id claimed d turn) : Stands id claimed d' turn := by
  have hsame := hapart turn d d' hhands
  cases turn with
  | going t =>
    refine ⟨h.1, fun hphase ↦ ?_⟩
    rw [hsame fun heq ↦ hphase (by rw [Turn.going.inj heq])]
    exact h.2 hphase
  | done result =>
    have hstatus := hsame (by simp)
    cases result with
    | ok outcome => exact hstatus.trans h
    | error reason => exact fun hclaimed ↦ ⟨hstatus.trans (h hclaimed).1, (h hclaimed).2⟩

/-! ### What follows from the calls -/

theorem Settling.going_eq (h : Settling id outcome (.going t) calls) :
    ∃ attempt wake, t = ⟨id, .settling outcome attempt wake⟩ := by
  cases h with
  | trying => exact ⟨_, _, rfl⟩

/-- What has ended has made a call. -/
theorem Settling.ne_nil_of_done {result : Except StoreError ReplayOutcome}
    (h : Settling id outcome (.done result) calls) : calls ≠ [] := by
  generalize hend : Turn.done result = turn at h
  cases h with
  | trying => exact absurd hend (by simp)
  | ends => simp

theorem Settling.length_le (h : Settling id outcome turn calls) :
    calls.length ≤ settleAttempts := by
  cases h with
  | trying _ hcount => exact Nat.le_of_lt hcount
  | ends _ hcount => rwa [List.length_append, List.length_singleton]

theorem Settling.spaced (h : Settling id outcome turn calls) : Spaced calls := by
  cases h with
  | trying _ _ hspaced | ends _ _ hspaced => exact hspaced

/-- A call after which there is another has failed. -/
theorem Settling.failed_of_lt (h : Settling id outcome turn calls) {n : ℕ} {c : StoreCall}
    (hc : calls[n]? = some c) (hn : n + 1 < calls.length) : c.failed := by
  cases h with
  | trying hfailed => exact hfailed c (List.mem_of_getElem? hc)
  | ends hfailed =>
    rw [List.getElem?_append_left (by simpa using hn)] at hc
    exact hfailed c (List.mem_of_getElem? hc)

/-- An answer other than a failure is the end. -/
theorem Settling.done_of_answer (h : Settling id outcome turn calls) {n : ℕ} {c : StoreCall}
    (hc : calls[n]? = some c) (hanswer : c.failed = false) :
    n + 1 = calls.length ∧ turn = .done (c.answer.map fun _ ↦ outcome) := by
  have hn : n + 1 = calls.length := by
    by_contra hne
    have hlt : n + 1 < calls.length :=
      Nat.lt_of_le_of_ne (List.getElem?_eq_some_iff.mp hc).1 hne
    exact absurd (h.failed_of_lt hc hlt) (by simp [hanswer])
  refine ⟨hn, ?_⟩
  cases h with
  | trying hfailed =>
    exact absurd (hfailed c (List.mem_of_getElem? hc)) (by simp [hanswer])
  | @ends failures last =>
    obtain rfl : n = failures.length := by simpa using hn
    rw [List.getElem?_concat_length, Option.some.injEq] at hc
    rw [hc]

/-- Settling ends well just if one of the calls is answered, and all before it have failed. -/
theorem Settling.ok_iff {result : Except StoreError ReplayOutcome}
    (h : Settling id outcome (.done result) calls) :
    (∃ o, result = .ok o) ↔ ∃ n < settleAttempts, ∃ c e, calls[n]? = some c ∧ c.answer = .ok e ∧
      ∀ b ∈ calls.take n, b.failed := by
  constructor
  · rintro ⟨o, rfl⟩
    generalize hturn : Turn.done (Except.ok o) = turn at h
    cases h with
    | trying => exact absurd hturn (by simp)
    | @ends failures last hfailed hcount =>
      obtain ⟨e, hanswer⟩ : ∃ e, last.answer = .ok e := by
        cases hanswer : last.answer with
        | ok e => exact ⟨e, rfl⟩
        | error reason => simp [hanswer, Except.map] at hturn
      refine ⟨failures.length, hcount, last, e, List.getElem?_concat_length, hanswer, ?_⟩
      rwa [List.take_left]
  · rintro ⟨n, -, c, e, hc, hanswer, -⟩
    obtain ⟨-, hturn⟩ := h.done_of_answer hc (by simp [StoreCall.failed, hanswer])
    rw [hanswer] at hturn
    exact ⟨outcome, Turn.done.inj hturn⟩

/-- A replay that settles its entry may go on when its pause is over. -/
theorem Settling.isSome_step_iff (h : Settling id outcome (.going t) calls) (hcalls : calls ≠ []) :
    (t.step d).isSome ↔
      ∀ c, calls.getLast? = some c → c.pauseEnd calls.length ≤ d.clock.now := by
  cases h with
  | @trying _ wake _ _ _ hwake =>
    obtain ⟨c, hc⟩ := Option.isSome_iff_exists.mp (List.getLast?_isSome.mpr hcalls)
    rw [Replay.step, hc, hwake c hc]
    simp

/-- If a replay that has claimed its entry ends in a failure of the medium, there were three in a
row. -/
theorem Calling.three_failures {text : String} {claim : StoreCall} {entry : DeadLetter}
    (h : Calling id (.done (.error (.backend text))) calls) (hhead : calls.head? = some claim)
    (hclaim : claim.answer = .ok entry) :
    [true, true, true] <:+: calls.map StoreCall.failed := by
  generalize hturn : Turn.done (Except.error (StoreError.backend text)) = turn at h
  cases h with
  | begun | sending => exact absurd hturn (by simp)
  | refused hrefused =>
    obtain rfl := Option.some.inj hhead
    exact absurd (hclaim.symm.trans hrefused) (by simp)
  | settling _ hsettling =>
    cases hsettling with
    | trying => exact absurd hturn (by simp)
    | @ends failures last hfailed _ _ hlast =>
      have hfailedLast : last.failed = true := by
        cases hanswer : last.answer with
        | ok e => simp [hanswer, Except.map] at hturn
        | error reason =>
          simp only [hanswer, Except.map, Turn.done.injEq, Except.error.injEq] at hturn
          exact (StoreCall.failed_iff last).mpr ⟨text, by rw [hanswer, ← hturn]⟩
      obtain ⟨a, b, rfl⟩ : ∃ a b, failures = [a, b] :=
        List.length_eq_two.mp (Nat.succ.inj (hlast hfailedLast))
      exact ⟨[claim.failed], [], by simp_all⟩

/-- A replay that cannot claim its entry changes none. -/
theorem entries_of_refused {reason : StoreError} (hphase : t.phase = .begun)
    (hclaim : (t.claimAnswer d).1 = .error reason) :
    ∃ site, t.step d = some (.done (.error reason), site) ∧
      site.letters.entries = d.letters.entries := by
  have hanswers := d.letters.answers t.id (claimable d) .processing d.moment.stamp
  rcases heq : t.claimAnswer d with ⟨answer, letters⟩
  rw [← claimAnswer, heq] at hanswers
  obtain rfl : answer = .error reason := by rw [← hclaim, heq]
  cases hanswers with
  | declined hentries =>
    refine ⟨{ d.tick with letters }, ?_, hentries⟩
    rw [step, hphase]
    show some (t.claim d) = _
    rw [claim, ← claimAnswer, heq]

/-- A replay that ends in an error without having claimed its entry has asked once. -/
theorem Calling.refused_of_unclaimed {reason : StoreError}
    (h : Calling id (.done (.error reason)) calls)
    (hclaimed : ¬ ∃ c e, calls.head? = some c ∧ c.answer = .ok e) :
    ∃ c other, calls = [c] ∧ c.answer = .error other ∧
      (Except.error reason : Except StoreError ReplayOutcome) = .error other := by
  generalize hend : Turn.done (Except.error reason) = turn at h
  cases h with
  | begun | sending => exact absurd hend (by simp)
  | refused hclaim => exact ⟨_, _, rfl, hclaim, Turn.done.inj hend⟩
  | settling hclaim => exact absurd ⟨_, _, rfl, hclaim⟩ hclaimed

/-- A replay that ends with its first call could not claim its entry. -/
theorem Calling.refused_of_single {reason : StoreError} {claim : StoreCall}
    (h : Calling id (.done (.error reason)) [claim]) : claim.answer = .error reason := by
  generalize hcalls : [claim] = calls at h
  cases h with
  | refused hclaim =>
    obtain rfl := (List.cons.inj hcalls).1
    exact hclaim
  | settling _ hsettling =>
    obtain rfl := (List.cons.inj hcalls).2
    exact absurd rfl hsettling.ne_nil_of_done

/-! ### Passages of a replay -/

variable {hands : Turn Replay (Except StoreError ReplayOutcome) → Depot → Depot → Prop}
  {p : Passage Replay (Except StoreError ReplayOutcome) Depot StoreCall}

/-- A replay that settles its entry from the first attempt on. -/
theorem settling_of_reaches
    (h : Passage.Reaches (among hands) ⟨.going ⟨id, .settling outcome 1 d.clock.now⟩, d, []⟩ p) :
    Settling id outcome p.turn p.notes ∧
      (p.notes = [] → p.turn = .going ⟨id, .settling outcome 1 d.clock.now⟩ ∧
        d.clock.now ≤ p.world.clock.now) := by
  refine h.keeps (fun p ↦ Settling id outcome p.turn p.notes ∧
    (p.notes = [] → p.turn = .going ⟨id, .settling outcome 1 d.clock.now⟩ ∧
      d.clock.now ≤ p.world.clock.now))
    (fun t turn w w' notes hstep hp ↦ ⟨hp.1.step hstep, fun hnone ↦ ?_⟩)
    (fun turn w w' notes hothers hp ↦ ⟨hp.1, fun hnone ↦ ?_⟩)
    ⟨settling_start id outcome _, fun _ ↦ ⟨rfl, Nat.le_refl _⟩⟩
  · obtain ⟨attempt, wake, rfl⟩ := hp.1.going_eq
    have hmove : Replay.step ⟨id, .settling outcome attempt wake⟩ w = some (turn, w') := hstep
    obtain ⟨-, c, hasks, -⟩ := settle_cases rfl hmove
    simp [among, hasks] at hnone
  · exact ⟨(hp.2 hnone).1, Nat.le_trans (hp.2 hnone).2 hothers.1⟩

/-- The entry of a replay that settles it. -/
theorem stands_of_settling (hapart : Apart hands id)
    (hprocessing : d.letters.status? id = some .processing) {wake : ℕ}
    (h : Passage.Reaches (among hands) ⟨.going ⟨id, .settling outcome 1 wake⟩, d, []⟩ p) :
    Stands id True p.world p.turn := by
  refine (h.keeps
    (fun p ↦ Settling id outcome p.turn p.notes ∧ Stands id True p.world p.turn)
    (fun t turn w w' notes hstep hp ↦ ⟨hp.1.step hstep, ?_⟩)
    (fun turn w w' notes hothers hp ↦ ⟨hp.1, stands_of_apart hapart hothers.2 hp.2⟩)
    ⟨settling_start id outcome _, rfl, fun _ ↦ hprocessing⟩).2
  refine stands_of_step hp.2 hstep fun hbegun ↦ ?_
  obtain ⟨attempt, wake, rfl⟩ := hp.1.going_eq
  exact absurd hbegun (by simp)

/-- A replay from its beginning on, and its entry. -/
theorem calling_of_reaches (hapart : Apart hands id)
    (h : Passage.Reaches (among hands) ⟨.going { id }, d, []⟩ p) :
    Calling id p.turn p.notes ∧
      Stands id (∃ c e, p.notes.head? = some c ∧ c.answer = .ok e) p.world p.turn := by
  refine h.keeps (fun p ↦ Calling id p.turn p.notes ∧
      Stands id (∃ c e, p.notes.head? = some c ∧ c.answer = .ok e) p.world p.turn)
    (fun t turn w w' notes hstep hp ↦ ?_)
    (fun turn w w' notes hothers hp ↦ ⟨hp.1, stands_of_apart hapart hothers.2 hp.2⟩)
    ⟨.begun, rfl, fun hphase ↦ absurd rfl hphase⟩
  obtain ⟨hcalling, hstands⟩ := hp
  have hafter := hcalling.step hstep
  refine ⟨hafter, stands_of_step hstands hstep fun hbegun reason hturn ⟨c, e, hhead, hanswer⟩ ↦ ?_⟩
  subst hturn
  generalize hnotes : (⟨.going t, w, notes⟩ : Passage _ _ _ _).notes = calls at hcalling
  cases hcalling with
  | begun =>
    obtain rfl : notes = [] := hnotes
    obtain rfl := Option.some.inj hhead
    exact absurd (hanswer.symm.trans (Calling.refused_of_single hafter)) (by simp)
  | sending => exact absurd hbegun (by simp)
  | settling _ hsettling =>
    obtain ⟨attempt, wake, rfl⟩ := hsettling.going_eq
    exact absurd hbegun (by simp)

/-- How a replay settles its entry, over every store and whatever the others do meanwhile.

It asks the store three times at most, each time after the medium has failed, 100 ms after the first
attempt and 200 ms after the second, and as soon as the pause is over. It ends well just if one of
the calls is answered and all before it have failed; any other answer is its end at once. If no one
else moves the entry, the entry stays in processing just if settling ends in an error.

So a replay that has claimed an entry which no one else moves leaves it in processing only if the
medium fails three times in a row, and one that ends well has left its entry as it says. A replay
that could not claim its entry has changed none. -/
theorem settles_in_three_calls
    (hands : Turn Replay (Except StoreError ReplayOutcome) → Depot → Depot → Prop)
    (id : EntryId) :
    (∀ outcome d p,
      Passage.Reaches (among hands) ⟨.going ⟨id, .settling outcome 1 d.clock.now⟩, d, []⟩ p →
      p.notes.length ≤ 3 ∧
      (∀ n c c', p.notes[n]? = some c → p.notes[n + 1]? = some c' → c.failed ∧
        c.moment.deadline (.ofMillis (100 * (n + 1))) ≤ c'.moment.now) ∧
      (∀ t, p.turn = .going t → ((t.step p.world).isSome ↔ ∀ c, p.notes.getLast? = some c →
        c.moment.deadline (.ofMillis (100 * p.notes.length)) ≤ p.world.clock.now)) ∧
      (∀ result, p.turn = .done result → ((∃ o, result = .ok o) ↔ ∃ n < 3, ∃ c e,
        p.notes[n]? = some c ∧ c.answer = .ok e ∧ ∀ b ∈ p.notes.take n, b.failed)) ∧
      (∀ n c reason, p.notes[n]? = some c → c.answer = .error reason → c.failed = false →
        n + 1 = p.notes.length ∧ p.turn = .done (.error reason)) ∧
      (Apart hands id → d.letters.status? id = some .processing → ∀ result,
        p.turn = .done result →
        (p.world.letters.status? id = some .processing ↔ ∃ reason, result = .error reason))) ∧
    (∀ d p, Passage.Reaches (among hands) ⟨.going { id }, d, []⟩ p → Apart hands id →
      ∀ result, p.turn = .done result →
      (∀ outcome, result = .ok outcome →
        p.world.letters.status? id = some (finalStatus outcome)) ∧
      ((∃ c reason, p.notes = [c] ∧ c.answer = .error reason ∧ result = .error reason) ∨
        (¬ [true, true, true] <:+: p.notes.map StoreCall.failed →
          p.world.letters.status? id ≠ some .processing))) ∧
    ∀ (t : Replay) d reason, t.phase = .begun → (t.claimAnswer d).1 = .error reason →
      ∃ site, t.step d = some (.done (.error reason), site) ∧
        site.letters.entries = d.letters.entries := by
  refine ⟨fun outcome d p h ↦ ?_, fun d p h hapart result hturn ↦ ?_,
    fun t d reason ↦ entries_of_refused⟩
  · obtain ⟨hsettling, hfirst⟩ := settling_of_reaches h
    refine ⟨hsettling.length_le, fun n c c' hc hc' ↦ ⟨?_, hsettling.spaced n c c' hc hc'⟩,
      fun t hturn ↦ ?_, fun result hturn ↦ ?_, fun n c reason hc hanswer hother ↦ ?_,
      fun hapart hprocessing result hturn ↦ ?_⟩
    · exact hsettling.failed_of_lt hc (List.getElem?_eq_some_iff.mp hc').1
    · by_cases hnone : p.notes = []
      · obtain ⟨hstart, hdue⟩ := hfirst hnone
        obtain rfl := Turn.going.inj (hturn.symm.trans hstart)
        simp [step, hdue, hnone]
      · exact Settling.isSome_step_iff (hturn ▸ hsettling) hnone
    · exact (hturn ▸ hsettling).ok_iff
    · obtain ⟨hn, hend⟩ := hsettling.done_of_answer hc hother
      rw [hanswer] at hend
      exact ⟨hn, hend⟩
    · have hstands := stands_of_settling hapart hprocessing h
      rw [hturn] at hstands
      cases result with
      | ok o =>
        rw [show p.world.letters.status? id = some (finalStatus o) from hstands]
        simp [ne_processing_finalStatus]
      | error reason => simp [(hstands trivial).1]
  · obtain ⟨hcalling, hstands⟩ := calling_of_reaches hapart h
    rw [hturn] at hcalling hstands
    cases result with
    | ok o =>
      have hstatus : p.world.letters.status? id = some (finalStatus o) := hstands
      refine ⟨fun outcome heq ↦ ?_, .inr fun _ ↦ ?_⟩
      · obtain rfl := Except.ok.inj heq
        exact hstatus
      · rw [hstatus]
        simp [ne_processing_finalStatus]
    | error reason =>
      refine ⟨fun outcome heq ↦ absurd heq (by simp), ?_⟩
      generalize hcalls : p.notes = calls at hcalling hstands ⊢
      by_cases hclaimed : ∃ c e, calls.head? = some c ∧ c.answer = .ok e
      · obtain ⟨-, text, rfl⟩ := hstands hclaimed
        obtain ⟨c, e, hhead, hanswer⟩ := hclaimed
        exact .inr fun hrare ↦ absurd (hcalling.three_failures hhead hanswer) hrare
      · exact .inl (hcalling.refused_of_unclaimed hclaimed)

/-! ### An entry settled at the third attempt -/

/-- Nobody else touches the letters. -/
def lettersRest (_ : Turn Replay (Except StoreError ReplayOutcome)) (d d' : Depot) : Prop :=
  d'.letters = d.letters

/-- Some time passes and nothing else happens. -/
def rested (time : ℕ) (p : Passage Replay (Except StoreError ReplayOutcome) Depot StoreCall) :
    Passage Replay (Except StoreError ReplayOutcome) Depot StoreCall :=
  { p with
    world :=
      { p.world with clock := { p.world.clock with now := p.world.clock.now + time } } }

/-- Three attempts to settle, each as early as may be. -/
def threeAttempts (p : Passage Replay (Except StoreError ReplayOutcome) Depot StoreCall) :
    Option (Passage Replay (Except StoreError ReplayOutcome) Depot StoreCall) :=
  ((Passage.ahead (among lettersRest) 1 p).bind fun p ↦
    Passage.ahead (among lettersRest) 1 (rested settlePause.nanos p)).bind fun p ↦
      Passage.ahead (among lettersRest) 1 (rested (settlePause.nanos * 2) p)

theorem reaches_rested (time : ℕ)
    (p : Passage Replay (Except StoreError ReplayOutcome) Depot StoreCall) :
    Passage.Reaches (among lettersRest) p (rested time p) :=
  .single (.yields ⟨Nat.le_add_right _ _, rfl⟩)

theorem reaches_of_threeAttempts
    {p p' : Passage Replay (Except StoreError ReplayOutcome) Depot StoreCall}
    (h : threeAttempts p = some p') : Passage.Reaches (among lettersRest) p p' := by
  obtain ⟨p₂, h₂, h₃⟩ := Option.bind_eq_some_iff.mp h
  obtain ⟨p₁, h₁, h₂⟩ := Option.bind_eq_some_iff.mp h₂
  exact ((Passage.reaches_of_ahead h₁).trans ((reaches_rested _ p₁).trans
    (Passage.reaches_of_ahead h₂))).trans
      ((reaches_rested _ p₂).trans (Passage.reaches_of_ahead h₃))

/-- A pending entry whose store fails to settle it twice. -/
def failingTwice : Depot :=
  { Session.withLetter.depot with
    letters := { Session.withLetter.depot.letters with faults := { settle := [true, true] } } }

/-- The replay of the entry up to its outcome. -/
def sentOff : Option (Passage Replay (Except StoreError ReplayOutcome) Depot StoreCall) :=
  Passage.ahead (among lettersRest) 4 ⟨.going { id := ⟨7⟩ }, failingTwice, []⟩

/-- The replay settles its entry, from where its calls to the gate have ended. -/
def settledAtThird :
    Option (Depot × Passage Replay (Except StoreError ReplayOutcome) Depot StoreCall) :=
  sentOff.bind fun p ↦
    (threeAttempts ⟨.going ⟨⟨7⟩, .settling (.resolved 1) 1 p.world.clock.now⟩, p.world, []⟩).map
      fun q ↦ (p.world, q)

theorem reaches_settledAtThird
    {settled : Depot × Passage Replay (Except StoreError ReplayOutcome) Depot StoreCall}
    (h : settledAtThird = some settled) :
    Passage.Reaches (among lettersRest)
      ⟨.going ⟨⟨7⟩, .settling (.resolved 1) 1 settled.1.clock.now⟩, settled.1, []⟩ settled.2 := by
  obtain ⟨p, -, hp⟩ := Option.bind_eq_some_iff.mp h
  obtain ⟨q, hq, rfl⟩ := Option.map_eq_some_iff.mp hp
  exact reaches_of_threeAttempts hq

/-- Settling fails twice and is done with the third call, 300 ms after the first; so the whole
replay does not leave its entry in processing. -/
theorem settles_in_three_calls_at_third :
    (∃ d p, d.letters.status? ⟨7⟩ = some .processing ∧
      Passage.Reaches (among lettersRest)
        ⟨.going ⟨⟨7⟩, .settling (.resolved 1) 1 d.clock.now⟩, d, []⟩ p ∧
      p.notes.length ≤ 3 ∧ p.turn = .done (.ok (.resolved 1)) ∧
      p.notes.map (fun c ↦ c.moment.now) = [0, 100000000, 300000000] ∧
      p.world.letters.status? ⟨7⟩ ≠ some .processing) ∧
    ∃ p, Passage.Reaches (among lettersRest) ⟨.going { id := ⟨7⟩ }, failingTwice, []⟩ p ∧
      p.notes.map StoreCall.failed = [false, true, true, false] ∧
      p.world.letters.status? ⟨7⟩ = some .resolved := by
  have hapart : Apart lettersRest ⟨7⟩ := fun _ _ _ hrest _ ↦ by rw [hrest]
  constructor
  · have hsome : settledAtThird.isSome := rfl
    have hq := reaches_settledAtThird (Option.some_get hsome).symm
    have hdone : (settledAtThird.get hsome).2.turn = .done (.ok (.resolved 1)) := rfl
    obtain ⟨hcount, -, -, -, -, hstatus⟩ := (settles_in_three_calls _ _).1 _ _ _ hq
    refine ⟨_, _, rfl, hq, hcount, hdone, rfl, fun hprocessing ↦ ?_⟩
    obtain ⟨reason, herror⟩ := (hstatus hapart rfl _ hdone).mp hprocessing
    exact absurd herror (by simp)
  · have hsome : (sentOff.bind threeAttempts).isSome := rfl
    obtain ⟨p, hp, hthree⟩ := Option.bind_eq_some_iff.mp (Option.some_get hsome).symm
    have hreaches := (Passage.reaches_of_ahead hp).trans (reaches_of_threeAttempts hthree)
    exact ⟨_, hreaches, rfl,
      ((settles_in_three_calls _ _).2.1 _ _ hreaches hapart _ rfl).1 (.resolved 1) rfl⟩

end Replay

end Courier

import Courier.Proofs.CircuitBreaker.Custody

/-!
# What a circuit breaker does, told by its history

The history of a breaker is the list of everything that was seen of it: permits granted and refused,
permits settled or dropped, and moves from state to state. A period is a stretch without moves.
`History.outstanding` are the permits of the present period that are neither settled nor dropped,
and `History.outcomes` are all outcomes that permits of the present period were settled with,
however many there are. Neither knows of windows, counts or period numbers.

`run_follows_history` says that a breaker does at every point of every run what its history demands:
when it refuses a permit, when it becomes half open, which settlement closes or opens it, and that a
permit of an earlier period changes nothing. `Annals.Faithful` is the simulation behind it: the
window holds the latest outcomes of the period, the successes are counted, and the permits that are
held and of the present period are those outstanding.
-/

set_option autoImplicit false
set_option relaxedAutoImplicit false

namespace Courier

open Rehearsal (Settlement)

/-- Something that was seen of a breaker. -/
inductive BreakerEvent where
  | granted (ticket : ℕ)
  | refused
  | settled (ticket : ℕ) (failed : Bool)
  | dropped (ticket : ℕ)
  /-- A period begins in a state. -/
  | moved (target : CircuitState) (time : ℕ)
  deriving DecidableEq, Repr

/-- What was seen of a breaker so far, the latest first. -/
abbrev BreakerHistory := List BreakerEvent

namespace BreakerHistory

/-- The state to which the breaker moved last; it begins closed. -/
def state : BreakerHistory → CircuitState
  | [] => .closed
  | .moved target _ :: _ => target
  | _ :: earlier => state earlier

/-- The time at which the present period began. -/
def since : BreakerHistory → ℕ
  | [] => 0
  | .moved _ time :: _ => time
  | _ :: earlier => since earlier

/-- The permits granted in the present period. -/
def grants : BreakerHistory → List ℕ
  | [] => []
  | .moved .. :: _ => []
  | .granted ticket :: earlier => ticket :: grants earlier
  | _ :: earlier => grants earlier

/-- The permits of the present period that are neither settled nor dropped. -/
def outstanding : BreakerHistory → List ℕ
  | [] => []
  | .moved .. :: _ => []
  | .granted ticket :: earlier => ticket :: outstanding earlier
  | .settled ticket _ :: earlier => (outstanding earlier).erase ticket
  | .dropped ticket :: earlier => (outstanding earlier).erase ticket
  | .refused :: earlier => outstanding earlier

/-- The outcomes with which permits of the present period were settled in it, the latest first; true
is a failure. -/
def outcomes : BreakerHistory → List Bool
  | [] => []
  | .moved .. :: _ => []
  | .settled ticket failed :: earlier =>
    if ticket ∈ grants earlier then failed :: outcomes earlier else outcomes earlier
  | _ :: earlier => outcomes earlier

/-- An open circuit has waited long enough, and the next permit makes it half open. -/
def Recovers (past : BreakerHistory) (s : BreakerSettings) (now : ℕ) : Prop :=
  past.state = .opened ∧ s.waitDuration.nanos ≤ now - past.since

/-- A permit is refused: the circuit is open and has not waited long enough, or it is half open and
as many trials as are permitted are under way. -/
def Refuses (past : BreakerHistory) (s : BreakerSettings) (now : ℕ) : Prop :=
  (past.state = .opened ∧ now - past.since < s.waitDuration.nanos) ∨
    (past.state = .halfOpen ∧ past.outstanding.length = s.permittedTrials)

/-- The latest outcomes open the circuit: there are enough failures among them, or there are enough
of them and a large enough share are failures. -/
def Trips (s : BreakerSettings) (latest : List Bool) : Prop :=
  s.failureThreshold ≤ latest.count true ∨
    (s.minimumCalls ≤ latest.length ∧
      s.failureRateThreshold ≤ CircuitBreaker.failureRate (latest.count true) latest.length)

/-- The next success closes the circuit: it is half open, and with this one the trials that
succeeded in the present period are as many as it takes. -/
def Closes (past : BreakerHistory) (s : BreakerSettings) : Prop :=
  past.state = .halfOpen ∧ past.outcomes.count false + 1 = s.successThreshold

/-- The next failure opens the circuit: it is half open, or it is closed and the latest outcomes
with this one, as many as the window is long, open it. -/
def Opens (past : BreakerHistory) (s : BreakerSettings) : Prop :=
  past.state = .halfOpen ∨
    (past.state = .closed ∧ Trips s ((true :: past.outcomes).take s.windowSize))

instance (s : BreakerSettings) (past : BreakerHistory) (now : ℕ) :
    Decidable (past.Recovers s now) :=
  inferInstanceAs (Decidable (_ ∧ _))

instance (s : BreakerSettings) (past : BreakerHistory) (now : ℕ) : Decidable (past.Refuses s now) :=
  inferInstanceAs (Decidable ((_ ∧ _) ∨ (_ ∧ _)))

instance (s : BreakerSettings) (latest : List Bool) : Decidable (Trips s latest) :=
  inferInstanceAs (Decidable (_ ∨ (_ ∧ _)))

instance (s : BreakerSettings) (past : BreakerHistory) : Decidable (past.Closes s) :=
  inferInstanceAs (Decidable (_ ∧ _))

instance (s : BreakerSettings) (past : BreakerHistory) : Decidable (past.Opens s) :=
  inferInstanceAs (Decidable (_ ∨ (_ ∧ _)))

end BreakerHistory

/-- What is seen when a permit is settled. -/
def Rehearsal.Settlement.event (how : Settlement) (ticket : ℕ) : BreakerEvent :=
  match how with
  | .succeed => .settled ticket false
  | .fail => .settled ticket true
  | .drop => .dropped ticket

/-- A breaker with the permits that are held, and its history. -/
structure Annals where
  custody : Custody
  past : BreakerHistory := []

namespace Annals

/-- What is seen of one deed, the latest first. -/
def seen (c : Custody) : Custody.Deed → List BreakerEvent
  | .acquire =>
    match c.breaker.acquire c.now with
    | (none, _) => [.refused]
    | (some _, breaker) =>
      if breaker.state = c.breaker.state then [.granted c.granted]
      else [.granted c.granted, .moved breaker.state c.now]
  | .settle place how =>
    match c.held[place]? with
    | none => []
    | some h =>
      match (how.apply c.breaker h.permit c.now).1 with
      | none => [how.event h.ticket]
      | some transition => [.moved transition.target c.now, how.event h.ticket]
  | .reset => [.moved .closed c.now]
  | .wait _ => []

/-- Does one deed and writes down what is seen of it. -/
def act (a : Annals) (deed : Custody.Deed) : Annals :=
  ⟨a.custody.act deed, seen a.custody deed ++ a.past⟩

/-- Does some deeds one after the other on a new breaker. -/
def run (s : BreakerSettings) (deeds : List Custody.Deed) : Annals :=
  deeds.foldl act ⟨Custody.start s, []⟩

/-- The history tells the counts and the permits of the breaker. -/
structure Faithful (a : Annals) : Prop where
  sound : a.custody.Sound
  state_eq : a.custody.breaker.state = a.past.state
  openedAt_eq : a.past.state = .opened → a.custody.breaker.openedAt = some a.past.since
  since_le : a.past.since ≤ a.custody.now
  mem_grants_iff : ∀ h ∈ a.custody.held, h.ticket ∈ a.past.grants ↔ a.custody.IsCurrent h
  ticket_lt : ∀ h ∈ a.custody.held, h.ticket < a.custody.granted
  grants_lt : ∀ ticket ∈ a.past.grants, ticket < a.custody.granted
  tickets_nodup : (a.custody.held.map HeldPermit.ticket).Nodup
  outstanding_perm :
    ((a.custody.held.filter fun h ↦ a.custody.IsCurrent h).map HeldPermit.ticket).Perm
      a.past.outstanding
  successes_eq : a.past.state = .halfOpen →
    a.custody.breaker.successes = a.past.outcomes.count false
  window_eq : a.past.state = .closed →
    a.custody.breaker.window =
      (a.past.outcomes.take a.custody.breaker.settings.windowSize).reverse

/-! ### What an event adds to a history -/

section Event

variable (how : Settlement) (ticket : ℕ) (past : BreakerHistory)

@[simp] theorem state_event : BreakerHistory.state (how.event ticket :: past) = past.state := by
  cases how <;> rfl

@[simp] theorem since_event : BreakerHistory.since (how.event ticket :: past) = past.since := by
  cases how <;> rfl

@[simp] theorem grants_event : BreakerHistory.grants (how.event ticket :: past) = past.grants := by
  cases how <;> rfl

@[simp] theorem outstanding_event :
    BreakerHistory.outstanding (how.event ticket :: past) = past.outstanding.erase ticket := by
  cases how <;> rfl

/-- A permit of an earlier period adds no outcome. -/
theorem outcomes_event_stale (hstale : ticket ∉ past.grants) :
    BreakerHistory.outcomes (how.event ticket :: past) = past.outcomes := by
  cases how <;> simp [Settlement.event, BreakerHistory.outcomes, hstale]

end Event

/-! ### The simulation -/

variable {a : Annals} {s : BreakerSettings}

/-- A move begins a period of which nothing has been seen yet. -/
theorem Faithful.moved (hf : a.Faithful) (hvalid : a.custody.breaker.settings.invalid? = none)
    {held : List HeldPermit} (hheld : held.Sublist a.custody.held) (target : CircuitState)
    (earlier : BreakerHistory) :
    Faithful
      ⟨{ a.custody with
          breaker := a.custody.breaker.moveTo target a.custody.now, held := held },
        .moved target a.custody.now :: earlier⟩ := by
  have hstale := Custody.not_isCurrent_moveTo hf.sound held (fun _ hmem ↦ hheld.subset hmem)
    target a.custody.now
  exact
    { sound := hf.sound.moveTo hvalid held (fun _ hmem ↦ hheld.subset hmem) target _
      state_eq := rfl
      openedAt_eq := fun hopened ↦ if_pos hopened
      since_le := Nat.le_refl _
      mem_grants_iff := fun h hmem ↦
        ⟨fun hgrant ↦ absurd hgrant List.not_mem_nil,
          fun hcurrent ↦ absurd hcurrent (hstale h hmem)⟩
      ticket_lt := fun h hmem ↦ hf.ticket_lt h (hheld.subset hmem)
      grants_lt := fun _ hgrant ↦ absurd hgrant List.not_mem_nil
      tickets_nodup := hf.tickets_nodup.sublist (hheld.map _)
      outstanding_perm := by
        have hnone : held.filter (fun h ↦ decide (h.permit.period =
            (a.custody.breaker.moveTo target a.custody.now).period)) = [] :=
          List.filter_eq_nil_iff.mpr fun h hmem ↦ by simpa using hstale h hmem
        simp only [Custody.IsCurrent, hnone]
        exact List.Perm.nil
      successes_eq := fun _ ↦ rfl
      window_eq := fun _ ↦ by simp [CircuitBreaker.moveTo, BreakerHistory.outcomes] }

/-- A permit granted in the present period is outstanding. -/
theorem Faithful.grant (hf : a.Faithful) (trial : Bool) (trials : ℕ)
    (hsound : Custody.Sound
      { a.custody with
        breaker := { a.custody.breaker with trials }
        held := ⟨a.custody.granted, ⟨a.custody.breaker.period, trial⟩⟩ :: a.custody.held
        granted := a.custody.granted + 1 }) :
    Faithful
      ⟨{ a.custody with
          breaker := { a.custody.breaker with trials }
          held := ⟨a.custody.granted, ⟨a.custody.breaker.period, trial⟩⟩ :: a.custody.held
          granted := a.custody.granted + 1 },
        .granted a.custody.granted :: a.past⟩ := by
  refine { hf with
    sound := hsound, mem_grants_iff := ?_, ticket_lt := ?_, grants_lt := ?_, tickets_nodup := ?_,
    outstanding_perm := ?_ }
  · intro h hmem
    rcases List.mem_cons.mp hmem with rfl | hmem
    · simp [BreakerHistory.grants]
    · have hne : h.ticket ≠ a.custody.granted := Nat.ne_of_lt (hf.ticket_lt h hmem)
      simpa [BreakerHistory.grants, hne] using hf.mem_grants_iff h hmem
  · intro h hmem
    rcases List.mem_cons.mp hmem with rfl | hmem
    · exact Nat.lt_succ_self _
    · exact Nat.lt_succ_of_lt (hf.ticket_lt h hmem)
  · intro ticket hgrant
    rcases List.mem_cons.mp hgrant with rfl | hgrant
    · exact Nat.lt_succ_self _
    · exact Nat.lt_succ_of_lt (hf.grants_lt ticket hgrant)
  · refine List.nodup_cons.mpr ⟨fun hmem ↦ ?_, hf.tickets_nodup⟩
    obtain ⟨h, hheld, hticket⟩ := List.mem_map.mp hmem
    exact absurd hticket (Nat.ne_of_lt (hf.ticket_lt h hheld))
  · have hperm := hf.outstanding_perm
    simpa [BreakerHistory.outstanding, Custody.IsCurrent] using hperm

/-- Among the permits of the present period only the one that goes is no longer outstanding. -/
theorem Faithful.outstanding_eraseIdx (hf : a.Faithful) {place : ℕ} {h : HeldPermit}
    (hplace : a.custody.held[place]? = some h) :
    (((a.custody.held.eraseIdx place).filter fun h ↦ a.custody.IsCurrent h).map
      HeldPermit.ticket).Perm (a.past.outstanding.erase h.ticket) := by
  obtain ⟨hlt, rfl⟩ := List.getElem?_eq_some_iff.mp hplace
  have hperm := List.getElem_cons_eraseIdx_perm hlt
  have hnodup := (hperm.map HeldPermit.ticket).nodup_iff.mpr hf.tickets_nodup
  have hout := ((hperm.filter fun h ↦ a.custody.IsCurrent h).map HeldPermit.ticket).trans
    hf.outstanding_perm
  rw [List.filter_cons] at hout
  split_ifs at hout with hcurrent
  · have herase := hout.erase a.custody.held[place].ticket
    rwa [List.map_cons, List.erase_cons_head] at herase
  · have hgone : a.custody.held[place].ticket ∉ a.past.outstanding := by
      intro hmem
      obtain ⟨h, hfiltered, hticket⟩ := List.mem_map.mp (hout.mem_iff.mpr hmem)
      have hleft : h.ticket ∈ (a.custody.held.eraseIdx place).map HeldPermit.ticket :=
        List.mem_map_of_mem (List.mem_of_mem_filter hfiltered)
      rw [hticket] at hleft
      exact (List.nodup_cons.mp hnodup).1 hleft
    rwa [List.erase_of_not_mem hgone]

/-- A permit is settled and the period goes on. -/
theorem Faithful.settled (hf : a.Faithful) {place : ℕ} {h : HeldPermit} (how : Settlement)
    (b : CircuitBreaker) (hplace : a.custody.held[place]? = some h)
    (hsound : Custody.Sound { a.custody with
      breaker := b, held := a.custody.held.eraseIdx place })
    (hsettings : b.settings = a.custody.breaker.settings)
    (hstate : b.state = a.custody.breaker.state)
    (hopened : b.openedAt = a.custody.breaker.openedAt)
    (hperiod : b.period = a.custody.breaker.period)
    (hsuccesses : a.past.state = .halfOpen →
      b.successes = (BreakerHistory.outcomes (how.event h.ticket :: a.past)).count false)
    (hwindow : a.past.state = .closed →
      b.window = ((BreakerHistory.outcomes (how.event h.ticket :: a.past)).take
        a.custody.breaker.settings.windowSize).reverse) :
    Faithful
      ⟨{ a.custody with breaker := b, held := a.custody.held.eraseIdx place },
        how.event h.ticket :: a.past⟩ where
  sound := hsound
  state_eq := by simpa using hstate.trans hf.state_eq
  openedAt_eq := by simpa using fun hpast ↦ hopened.trans (hf.openedAt_eq hpast)
  since_le := by simpa using hf.since_le
  mem_grants_iff := fun h hmem ↦ by
    simpa [Custody.IsCurrent, hperiod] using
      hf.mem_grants_iff h (Custody.mem_of_mem_eraseIdx h hmem)
  ticket_lt := fun h hmem ↦ hf.ticket_lt h (Custody.mem_of_mem_eraseIdx h hmem)
  grants_lt := by simpa using hf.grants_lt
  tickets_nodup := hf.tickets_nodup.sublist ((List.eraseIdx_sublist ..).map _)
  outstanding_perm := by
    simpa [Custody.IsCurrent, hperiod] using hf.outstanding_eraseIdx hplace
  successes_eq := by simpa using hsuccesses
  window_eq := by simpa [hsettings] using hwindow

/-- The window of the latest outcomes moves on by one. -/
theorem window_push (outcomes : List Bool) (failed : Bool) {size : ℕ} (hsize : 1 ≤ size) :
    ((outcomes.take size).reverse.drop ((outcomes.take size).reverse.length + 1 - size)) ++
        [failed] =
      ((failed :: outcomes).take size).reverse := by
  obtain ⟨size, rfl⟩ := Nat.exists_eq_add_of_le' hsize
  rw [List.take_succ_cons, List.reverse_cons, List.drop_reverse, List.take_take,
    List.length_reverse, List.length_take]
  congr 2
  rcases Nat.lt_or_ge size outcomes.length with hlong | hshort
  · congr 1
    omega
  · rw [List.take_of_length_le (by omega), List.take_of_length_le hshort]

/-- A closed breaker takes the outcome of a permit of its period into the window. -/
theorem Faithful.push (hf : a.Faithful) (hvalid : a.custody.breaker.settings.invalid? = none)
    {h : HeldPermit} (hclosed : a.custody.breaker.state = .closed)
    (hgrant : h.ticket ∈ a.past.grants) (failed : Bool) :
    (a.custody.breaker.push failed).window =
      ((BreakerHistory.outcomes (.settled h.ticket failed :: a.past)).take
        a.custody.breaker.settings.windowSize).reverse := by
  obtain ⟨-, -, hwindow, -⟩ := CircuitBreaker.bounds_of_valid hvalid
  rw [CircuitBreaker.push_window, hf.window_eq (hf.state_eq ▸ hclosed), window_push _ _ hwindow,
    BreakerHistory.outcomes, if_pos hgrant]

/-- A window trips the breaker exactly if the outcomes in it do, in whatever order. -/
theorem tripped_iff {b : CircuitBreaker} {latest : List Bool}
    (hfailures : b.failures = b.window.count true) (hwindow : b.window = latest.reverse) :
    b.tripped = true ↔ BreakerHistory.Trips b.settings latest := by
  simp [CircuitBreaker.tripped, BreakerHistory.Trips, hfailures, hwindow]

/-- Asking for a permit is as the history demands. -/
theorem Faithful.acquire (hf : a.Faithful) (hvalid : a.custody.breaker.settings.invalid? = none) :
    (a.act .acquire).Faithful := by
  have hsound := hf.sound.acquire hvalid
  cases hstate : a.custody.breaker.state with
  | closed =>
    rw [Custody.acquire, CircuitBreaker.acquire_closed hstate] at hsound
    simp only [act, Custody.act, Custody.acquire, seen, CircuitBreaker.acquire_closed hstate]
    exact hf.grant false a.custody.breaker.trials hsound
  | opened =>
    cases hwaited : a.custody.breaker.waited a.custody.now with
    | false =>
      simp only [act, Custody.act, Custody.acquire, seen,
        CircuitBreaker.acquire_waiting hstate hwaited]
      exact { hf with }
    | true =>
      have hmoved := hf.moved hvalid (List.Sublist.refl _) .halfOpen a.past
      rw [Custody.acquire, CircuitBreaker.acquire_waited hstate hwaited] at hsound
      simp only [act, Custody.act, Custody.acquire, seen,
        CircuitBreaker.acquire_waited hstate hwaited, CircuitBreaker.moveTo, hstate]
      exact hmoved.grant true 1 hsound
  | halfOpen =>
    by_cases hroom : a.custody.breaker.trials < a.custody.breaker.settings.permittedTrials
    · rw [Custody.acquire, CircuitBreaker.acquire_trial hstate hroom] at hsound
      simp only [act, Custody.act, Custody.acquire, seen,
        CircuitBreaker.acquire_trial hstate hroom]
      exact hf.grant true (a.custody.breaker.trials + 1) hsound
    · simp only [act, Custody.act, Custody.acquire, seen,
        CircuitBreaker.acquire_full hstate (Nat.not_lt.mp hroom)]
      exact { hf with }

/-- Settling a permit is as the history demands. -/
theorem Faithful.settle (hf : a.Faithful) (hvalid : a.custody.breaker.settings.invalid? = none)
    (place : ℕ) (how : Settlement) : (a.act (.settle place how)).Faithful := by
  have hsound := hf.sound.settle hvalid place how
  cases hplace : a.custody.held[place]? with
  | none =>
    simp only [act, Custody.act, Custody.settle, seen, hplace]
    exact hf
  | some h =>
    simp only [Custody.settle, hplace] at hsound
    simp only [act, Custody.act, Custody.settle, seen, hplace]
    have hmem : h ∈ a.custody.held := List.mem_of_getElem? hplace
    have hheld := List.eraseIdx_sublist a.custody.held place
    by_cases hcurrent : a.custody.IsCurrent h
    · have hgrant : h.ticket ∈ a.past.grants := (hf.mem_grants_iff h hmem).mpr hcurrent
      cases htrial : h.permit.trial with
      | true =>
        have hhalf : a.past.state = .halfOpen :=
          hf.state_eq ▸ (hf.sound.trial_iff h hmem hcurrent).mp htrial
        have hopen : a.past.state ≠ .closed := by simp [hhalf]
        have hcount := hf.successes_eq hhalf
        cases how with
        | succeed =>
          rw [Settlement.apply, CircuitBreaker.succeed_trial hcurrent htrial] at hsound ⊢
          split_ifs at hsound ⊢ with hlast
          · exact hf.moved hvalid hheld .closed _
          · refine hf.settled .succeed _ hplace hsound rfl rfl rfl rfl (fun _ ↦ ?_)
              (fun hclosed ↦ absurd hclosed hopen)
            simp [Settlement.event, BreakerHistory.outcomes, hgrant, hcount]
        | fail =>
          rw [Settlement.apply, CircuitBreaker.fail_trial hcurrent htrial]
          exact hf.moved hvalid hheld .opened _
        | drop =>
          rw [Settlement.apply, CircuitBreaker.drop_trial hcurrent htrial] at hsound ⊢
          exact hf.settled .drop _ hplace hsound rfl rfl rfl rfl (fun _ ↦ hcount)
            (fun hclosed ↦ absurd hclosed hopen)
      | false =>
        have hclosed := hf.sound.closed_of_call hmem hcurrent htrial
        have hhalf : a.past.state ≠ .halfOpen := by simp [← hf.state_eq, hclosed]
        cases how with
        | succeed =>
          rw [Settlement.apply, CircuitBreaker.succeed_call hcurrent htrial] at hsound ⊢
          exact hf.settled .succeed _ hplace hsound rfl rfl rfl rfl
            (fun hne ↦ absurd hne hhalf) (fun _ ↦ hf.push hvalid hclosed hgrant false)
        | fail =>
          rw [Settlement.apply, CircuitBreaker.fail_call hcurrent htrial] at hsound ⊢
          split_ifs at hsound ⊢ with htripped
          · exact hf.moved hvalid hheld .opened _
          · exact hf.settled .fail _ hplace hsound rfl rfl rfl rfl
              (fun hne ↦ absurd hne hhalf) (fun _ ↦ hf.push hvalid hclosed hgrant true)
        | drop =>
          rw [Settlement.apply, CircuitBreaker.drop_call htrial] at hsound ⊢
          exact hf.settled .drop _ hplace hsound rfl rfl rfl rfl
            (fun hne ↦ absurd hne hhalf) hf.window_eq
    · have hstale : h.ticket ∉ a.past.grants := fun hgrant ↦
        hcurrent ((hf.mem_grants_iff h hmem).mp hgrant)
      rw [CircuitBreaker.apply_stale how hcurrent] at hsound ⊢
      refine hf.settled how _ hplace hsound rfl rfl rfl rfl ?_ ?_
      · rw [outcomes_event_stale how _ _ hstale]
        exact hf.successes_eq
      · rw [outcomes_event_stale how _ _ hstale]
        exact hf.window_eq

/-- Every deed is as the history demands. -/
theorem Faithful.act (hf : a.Faithful) (hvalid : a.custody.breaker.settings.invalid? = none)
    (deed : Custody.Deed) : (a.act deed).Faithful := by
  cases deed with
  | acquire => exact hf.acquire hvalid
  | settle place how => exact hf.settle hvalid place how
  | reset => exact hf.moved hvalid (List.Sublist.refl _) .closed a.past
  | wait time =>
    exact { hf with
      sound := { hf.sound with }
      since_le := Nat.le_trans hf.since_le (Nat.le_add_right _ _) }

/-! ### A run -/

theorem run_concat (s : BreakerSettings) (deeds : List Custody.Deed) (deed : Custody.Deed) :
    run s (deeds ++ [deed]) = (run s deeds).act deed :=
  List.foldl_concat ..

/-- Writing the history down does not change what happens. -/
theorem run_custody (s : BreakerSettings) (deeds : List Custody.Deed) :
    (run s deeds).custody = Custody.run s deeds := by
  induction deeds using List.reverseRecOn with
  | nil => rfl
  | append_singleton deeds deed ih => rw [run_concat, Custody.run_concat, act, ih]

/-- The history of every run of a breaker with valid settings tells its counts and its permits. -/
theorem run_faithful (hvalid : s.invalid? = none) (deeds : List Custody.Deed) :
    (run s deeds).Faithful := by
  induction deeds using List.reverseRecOn with
  | nil =>
    constructor <;> simp [run, Custody.start, BreakerHistory.state, BreakerHistory.since,
      BreakerHistory.grants, BreakerHistory.outstanding, BreakerHistory.outcomes]
    exact Custody.start_sound hvalid
  | append_singleton deeds deed ih =>
    have hsettings := (Custody.run_sound hvalid deeds).2
    rw [run_concat]
    exact ih.act (by rwa [run_custody, hsettings]) deed

/-! ### What the history demands -/

/-- While the circuit is half open, the permits outstanding are the trials under way. -/
theorem Faithful.outstanding_length (hf : a.Faithful) (hhalf : a.past.state = .halfOpen) :
    a.past.outstanding.length = a.custody.breaker.trials := by
  rw [← hf.outstanding_perm.length_eq, List.length_map, ← List.countP_eq_length_filter,
    hf.sound.trials_eq, Custody.trialsHeld]
  refine List.countP_congr fun h hmem ↦ ?_
  have htrial := hf.sound.trial_iff h hmem
  rw [hf.state_eq, hhalf] at htrial
  by_cases hcurrent : a.custody.IsCurrent h
  · simp [(htrial hcurrent).mpr rfl]
  · simp [hcurrent]

theorem Faithful.waited_iff (hf : a.Faithful) (hopened : a.past.state = .opened) (now : ℕ) :
    a.custody.breaker.waited now = true ↔
      a.custody.breaker.settings.waitDuration.nanos ≤ now - a.past.since := by
  simp [CircuitBreaker.waited, hf.openedAt_eq hopened]

/-- A permit is refused exactly if the history says so. -/
theorem Faithful.acquire_eq_none_iff (hf : a.Faithful) (now : ℕ) :
    (a.custody.breaker.acquire now).1 = none ↔
      a.past.Refuses a.custody.breaker.settings now := by
  have hstate := hf.state_eq
  cases hpast : a.past.state with
  | closed =>
    rw [hpast] at hstate
    simp [CircuitBreaker.acquire_closed hstate, BreakerHistory.Refuses, hpast]
  | opened =>
    rw [hpast] at hstate
    have hiff := hf.waited_iff hpast now
    cases hwaited : a.custody.breaker.waited now with
    | false =>
      rw [hwaited] at hiff
      simpa [CircuitBreaker.acquire_waiting hstate hwaited, BreakerHistory.Refuses, hpast]
        using hiff
    | true =>
      simpa [CircuitBreaker.acquire_waited hstate hwaited, BreakerHistory.Refuses, hpast]
        using hiff.mp hwaited
  | halfOpen =>
    rw [hpast] at hstate
    have hlength := hf.outstanding_length hpast
    have hle := hf.sound.trials_le
    by_cases hroom : a.custody.breaker.trials < a.custody.breaker.settings.permittedTrials
    · simpa [CircuitBreaker.acquire_trial hstate hroom, BreakerHistory.Refuses, hpast, hlength]
        using Nat.ne_of_lt hroom
    · simpa [CircuitBreaker.acquire_full hstate (Nat.not_lt.mp hroom), BreakerHistory.Refuses,
        hpast, hlength] using Nat.le_antisymm hle (Nat.not_lt.mp hroom)

/-- Asking for a permit makes an open circuit half open once it has waited, and moves nothing else.
-/
theorem Faithful.acquire_state (hf : a.Faithful) (now : ℕ) :
    (a.custody.breaker.acquire now).2.state =
      if a.past.Recovers a.custody.breaker.settings now then .halfOpen else a.past.state := by
  have hstate := hf.state_eq
  cases hpast : a.past.state with
  | closed =>
    rw [hpast] at hstate
    simp [CircuitBreaker.acquire_closed hstate, BreakerHistory.Recovers, hpast, hstate]
  | opened =>
    rw [hpast] at hstate
    have hiff := hf.waited_iff hpast now
    cases hwaited : a.custody.breaker.waited now with
    | false =>
      rw [hwaited] at hiff
      simp [CircuitBreaker.acquire_waiting hstate hwaited, BreakerHistory.Recovers, hpast, hstate,
        ← hiff]
    | true =>
      simp [CircuitBreaker.acquire_waited hstate hwaited, BreakerHistory.Recovers, hpast,
        hiff.mp hwaited, CircuitBreaker.moveTo]
  | halfOpen =>
    rw [hpast] at hstate
    by_cases hroom : a.custody.breaker.trials < a.custody.breaker.settings.permittedTrials
    · simp [CircuitBreaker.acquire_trial hstate hroom, BreakerHistory.Recovers, hpast, hstate]
    · simp [CircuitBreaker.acquire_full hstate (Nat.not_lt.mp hroom), BreakerHistory.Recovers,
        hpast, hstate]

/-- A success moves the breaker exactly if the history says so. -/
theorem Faithful.succeed_eq (hf : a.Faithful) {h : HeldPermit} (hmem : h ∈ a.custody.held)
    (hgrant : h.ticket ∈ a.past.grants) (now : ℕ) :
    (a.custody.breaker.succeed h.permit now).1 =
      if a.past.Closes a.custody.breaker.settings then some ⟨.halfOpen, .closed⟩ else none := by
  have hcurrent := (hf.mem_grants_iff h hmem).mp hgrant
  have hlt := hf.sound.successes_lt
  cases htrial : h.permit.trial with
  | true =>
    have hhalf := (hf.sound.trial_iff h hmem hcurrent).mp htrial
    have hpast : a.past.state = .halfOpen := hf.state_eq ▸ hhalf
    have hcount := hf.successes_eq hpast
    rw [CircuitBreaker.succeed_trial hcurrent htrial, hhalf]
    have hiff : a.past.Closes a.custody.breaker.settings ↔
        a.custody.breaker.settings.successThreshold ≤ a.custody.breaker.successes + 1 := by
      rw [BreakerHistory.Closes, ← hcount]
      constructor
      · exact fun hcloses ↦ Nat.le_of_eq hcloses.2.symm
      · exact fun hle ↦ ⟨hpast, by omega⟩
    by_cases hlast : a.past.Closes a.custody.breaker.settings
    · rw [if_pos hlast, if_pos (hiff.mp hlast)]
    · rw [if_neg hlast, if_neg (mt hiff.mpr hlast)]
  | false =>
    have hclosed := hf.sound.closed_of_call hmem hcurrent htrial
    rw [CircuitBreaker.succeed_call hcurrent htrial, if_neg]
    simp [BreakerHistory.Closes, ← hf.state_eq, hclosed]

/-- A failure moves the breaker exactly if the history says so. -/
theorem Faithful.fail_eq (hf : a.Faithful) (hvalid : a.custody.breaker.settings.invalid? = none)
    {h : HeldPermit} (hmem : h ∈ a.custody.held) (hgrant : h.ticket ∈ a.past.grants) (now : ℕ) :
    (a.custody.breaker.fail h.permit now).1 =
      if a.past.Opens a.custody.breaker.settings then some ⟨a.past.state, .opened⟩
      else none := by
  have hcurrent := (hf.mem_grants_iff h hmem).mp hgrant
  cases htrial : h.permit.trial with
  | true =>
    have hhalf := (hf.sound.trial_iff h hmem hcurrent).mp htrial
    rw [CircuitBreaker.fail_trial hcurrent htrial, hf.state_eq, if_pos]
    exact Or.inl (hf.state_eq ▸ hhalf)
  | false =>
    have hclosed := hf.sound.closed_of_call hmem hcurrent htrial
    have hpast : a.past.state = .closed := hf.state_eq ▸ hclosed
    have hwindow := hf.push hvalid hclosed hgrant true
    have hfailures := CircuitBreaker.push_failures true hf.sound.failures_eq
    have hiff : (a.custody.breaker.push true).tripped = true ↔
        a.past.Opens a.custody.breaker.settings := by
      rw [tripped_iff hfailures hwindow, BreakerHistory.Opens, hpast]
      simp [BreakerHistory.outcomes, hgrant]
    rw [CircuitBreaker.fail_call hcurrent htrial, hf.state_eq]
    by_cases htrips : a.past.Opens a.custody.breaker.settings
    · rw [if_pos htrips, if_pos (hiff.mpr htrips)]
    · rw [if_neg htrips, if_neg (mt hiff.mp htrips)]

/-- At every point of every run a breaker with valid settings does what its history demands. It
refuses a permit exactly if it is open and has not waited long enough, or half open with as many
trials of the period under way as are permitted. Only asking for a permit makes an open circuit half
open, and does so exactly if it has waited long enough. The success of a permit of the period closes
the circuit exactly if it is half open and this success is the last that it takes; the failure of
one opens the circuit exactly if it is half open, or closed and the latest outcomes of the period,
as many as the window is long, hold enough failures. A permit that is dropped leaves the circuit in
its state, and one of an earlier period changes nothing. -/
theorem run_follows_history (s : BreakerSettings) (hvalid : s.invalid? = none)
    (deeds : List Custody.Deed) :
    let a := run s deeds
    let b := a.custody.breaker
    let now := a.custody.now
    a.custody = Custody.run s deeds ∧ b.state = a.past.state ∧ a.past.since ≤ now ∧
      ((b.acquire now).1 = none ↔ a.past.Refuses s now) ∧
      (b.acquire now).2.state = (if a.past.Recovers s now then .halfOpen else a.past.state) ∧
      ∀ h ∈ a.custody.held,
        (h.ticket ∈ a.past.grants →
          (h.permit.trial ↔ a.past.state = .halfOpen) ∧
          (b.succeed h.permit now).1 =
            (if a.past.Closes s then some ⟨.halfOpen, .closed⟩ else none) ∧
          (b.fail h.permit now).1 =
            (if a.past.Opens s then some ⟨a.past.state, .opened⟩ else none)) ∧
        (h.ticket ∉ a.past.grants → ∀ how : Settlement, how.apply b h.permit now = (none, b)) ∧
        (∀ how : Settlement, (how.apply b h.permit now).2.state =
          ((how.apply b h.permit now).1.map Transition.target).getD a.past.state) ∧
        (b.drop h.permit).state = a.past.state := by
  intro a b now
  have hf : a.Faithful := run_faithful hvalid deeds
  have hsettings : b.settings = s := by
    rw [show b = (Custody.run s deeds).breaker from congrArg Custody.breaker (run_custody s deeds)]
    exact (Custody.run_sound hvalid deeds).2
  refine ⟨run_custody s deeds, hf.state_eq, hf.since_le, ?_, ?_, fun h hmem ↦ ⟨?_, ?_, ?_, ?_⟩⟩
  · rw [← hsettings]
    exact hf.acquire_eq_none_iff now
  · simp only [← hsettings]
    exact hf.acquire_state now
  · intro hgrant
    have hcurrent := (hf.mem_grants_iff h hmem).mp hgrant
    have htrial := hf.sound.trial_iff h hmem hcurrent
    simp only [← hsettings]
    exact ⟨by rwa [← hf.state_eq], hf.succeed_eq hmem hgrant now,
      hf.fail_eq (hsettings ▸ hvalid) hmem hgrant now⟩
  · intro hgrant how
    exact CircuitBreaker.apply_stale how fun hcurrent ↦
      hgrant ((hf.mem_grants_iff h hmem).mpr hcurrent)
  · intro how
    rw [← hf.state_eq]
    exact CircuitBreaker.apply_state how
  · rw [← hf.state_eq]
    exact @CircuitBreaker.apply_state b h.permit now .drop

/-- A circuit that two successful trials close, after the first of them, with the second and a call
from before it opened under way: the second closes it and the old call would do nothing. -/
theorem run_follows_history_recovering :
    BreakerSettings.invalid? { failureThreshold := 1, waitDuration := .zero } = none ∧
      let a := run { failureThreshold := 1, waitDuration := .zero }
        [.acquire, .acquire, .settle 0 .fail, .acquire, .settle 0 .succeed, .acquire]
      a.past.state = .halfOpen ∧ a.past.grants = [3, 2] ∧ a.past.outstanding = [3] ∧
        a.past.outcomes = [false] ∧
        ((a.custody.breaker.acquire a.custody.now).1 = none ↔
          a.past.Refuses { failureThreshold := 1, waitDuration := .zero } a.custody.now) ∧
        a.past.Closes { failureThreshold := 1, waitDuration := .zero } := by
  have hvalid :
      BreakerSettings.invalid? { failureThreshold := 1, waitDuration := .zero } = none := by
    decide
  obtain ⟨-, -, -, hrefuses, -⟩ := run_follows_history _ hvalid
    [.acquire, .acquire, .settle 0 .fail, .acquire, .settle 0 .succeed, .acquire]
  exact ⟨hvalid, by decide, by decide, by decide, by decide, hrefuses, by decide⟩

end Annals

end Courier

import Courier.Proofs.Gate.Visits
import Mathlib.Logic.Relation

/-!
# Any number of calls at one gate

`Traffic` is a gate with all calls that ever came to it. A call comes, makes its next move, or is
dropped wherever it is; the moves of different calls follow each other in any order
(`Traffic.Move`, `Traffic.Reaches`). What the clocks say and how senders reply is open at each move.
A log says what calls did to the breaker: which permit was granted and how it was settled.

A gate leaks nothing: `Traffic.nothing_leaks`. `Traffic.Kept` is the invariant; its parts are kept
by what one move of a call does to the slots and to the breaker.
-/

set_option autoImplicit false
set_option relaxedAutoImplicit false

namespace Courier

/-! ### The moves at a gate -/

/-- A gate in use. -/
structure Traffic where
  gate : Gate
  /-- Those who came keep their places, also when they are gone. -/
  visits : List Visit := []
  /-- What was done to the breaker so far, the latest first, with the place of the call. -/
  log : List (ℕ × Dealing) := []

namespace Traffic

/-- The gate after a call has become another. -/
def turned (s : Traffic) (now place : ℕ) (c : GateCall) (v : Visit) (gate : Gate) : Traffic :=
  ⟨gate, s.visits.set place v, (Visit.dealings now c v).map (Prod.mk place) ++ s.log⟩

/-- One move at a gate. -/
inductive Move (f : Feedback) (s : Traffic) : Traffic → Prop where
  /-- Someone calls. -/
  | come (url : String) (payload : Json) :
      Move f s { s with visits := s.visits ++ [.going { url, payload }] }
  /-- A call makes its next move; a reply of its sender may be a crash. -/
  | turn {place : ℕ} {c : GateCall} {m : Moment} {sender : Sender}
      {turn : Turn GateCall GateCall.End} {scene : GateScene}
      (hvisit : s.visits[place]? = some (.going c))
      (hstep : c.step f m ⟨s.gate, sender, []⟩ = some (turn, scene)) :
      Move f s (s.turned m.now place c (.ofTurn turn) scene.gate)
  /-- A call is dropped where it is. -/
  | drop {place : ℕ} {c : GateCall} (now : ℕ) (sender : Sender)
      (hvisit : s.visits[place]? = some (.going c)) :
      Move f s (s.turned now place c .dropped (c.cancel ⟨s.gate, sender, []⟩).gate)

/-- Any number of moves. -/
abbrev Reaches (f : Feedback) : Traffic → Traffic → Prop := Relation.ReflTransGen (Move f)

/-- The number of calls that have a slot. -/
def holders (s : Traffic) : ℕ := (s.visits.map Visit.standing).count .inside

/-- The number of calls that wait with a ticket. -/
def waiting (s : Traffic) (ticket : ℕ) : ℕ := (s.visits.map Visit.standing).count (.inLine ticket)

/-- The number of calls that hold a trial of the present period. -/
def trials (s : Traffic) : ℕ :=
  (s.visits.flatMap Visit.permits).countP fun p ↦
    p.trial && decide (p.period = s.gate.breaker.period)

/-- What the call at a place did to the breaker, the latest first. -/
def dealings (s : Traffic) (place : ℕ) : List Dealing :=
  (s.log.filter fun e ↦ e.1 = place).map Prod.snd

/-- No call is in flight. -/
def Idle (s : Traffic) : Prop := ∀ v ∈ s.visits, v.isOver = true

/-- The slots, the trials and the dealings with the breaker are those of the calls. -/
structure Kept (settings : GateSettings) (s : Traffic) : Prop where
  breaker_settings : s.gate.breaker.settings = settings.breaker
  slots : s.gate.bulkhead.Sound settings.bulkhead.maxConcurrent (s.visits.map Visit.standing)
  watched : Watched s.gate.breaker (s.visits.flatMap Visit.permits)
  ledger : Dealt { settings := settings.breaker } (s.log.map Prod.snd) s.gate.breaker
  bills : ∀ place v, s.visits[place]? = some v → Visit.Bill v (s.dealings place)
  places : ∀ e ∈ s.log, e.1 < s.visits.length

variable {settings : GateSettings} {f : Feedback} {s s' : Traffic}

/-- A gate has the settings that it was made with. -/
theorem gate_of_new {resource : String} {g : Gate} (hnew : Gate.new resource settings = .ok g) :
    Bulkhead.new settings.bulkhead = .ok g.bulkhead ∧
      g.breaker = { settings := settings.breaker } := by
  unfold Gate.new at hnew
  simp only [bind, Except.bind] at hnew
  split at hnew
  · cases hnew
  · rename_i bulkhead hbulkhead
    split at hnew
    · cases hnew
    · cases hnew
      exact ⟨hbulkhead, rfl⟩

theorem breaker_of_valid (hvalid : settings.invalid? = none) :
    settings.breaker.invalid? = none := by
  simp [GateSettings.invalid?, GateSettings.about] at hvalid
  exact hvalid.2.2.1

theorem kept_start {resource : String} {g : Gate} (hvalid : settings.invalid? = none)
    (hnew : Gate.new resource settings = .ok g) : Kept settings { gate := g } := by
  obtain ⟨hbulkhead, hbreaker⟩ := gate_of_new hnew
  exact
    { breaker_settings := by rw [hbreaker]
      slots := Bulkhead.sound_new hbulkhead
      watched := by
        rw [hbreaker]
        exact .start (breaker_of_valid hvalid)
      ledger := by
        rw [hbreaker]
        exact .nil
      bills := by simp
      places := by simp }

/-- The call that came last has done nothing to the breaker yet. -/
theorem Kept.dealings_eq_nil (h : s.Kept settings) {place : ℕ} (hplace : s.visits.length ≤ place) :
    s.dealings place = [] := by
  rw [dealings, List.filter_eq_nil_iff.mpr, List.map_nil]
  intro e he
  have hlt := h.places e he
  simp only [decide_eq_true_eq]
  omega

theorem Kept.come (h : s.Kept settings) (url : String) (payload : Json) :
    Kept settings { s with visits := s.visits ++ [.going { url, payload }] } := by
  refine
    { h with
      slots := ?_
      watched := ?_
      bills := fun place v hv ↦ ?_
      places := fun e he ↦ ?_ }
  · rw [List.map_append]
    exact h.slots.come
  · rw [List.flatMap_append]
    simpa [Visit.permits, GateCall.permit?] using h.watched
  · rcases Nat.lt_or_ge place s.visits.length with hlt | hge
    · rw [List.getElem?_append_left hlt] at hv
      exact h.bills place v hv
    · rw [List.getElem?_append_right hge, List.getElem?_singleton] at hv
      split_ifs at hv
      obtain rfl := Option.some.inj hv
      change Visit.Bill _ (s.dealings place)
      rw [h.dealings_eq_nil hge]
      exact .unadmitted rfl (.inl rfl)
  · rw [List.length_append]
    exact Nat.lt_add_right _ (h.places e he)

/-- What a call adds to the log is its own. -/
theorem dealings_turned (s : Traffic) (now place other : ℕ) (c : GateCall) (v : Visit)
    (gate : Gate) :
    (s.turned now place c v gate).dealings other =
      if other = place then Visit.dealings now c v ++ s.dealings place else s.dealings other := by
  split_ifs with hsame
  · subst hsame
    simp [dealings, Traffic.turned, List.filter_map, Function.comp_def]
  · simp [dealings, Traffic.turned, List.filter_map, Function.comp_def, Ne.symm hsame]

/-- A call that moves, or is dropped, keeps the accounts. -/
theorem Kept.turned {now place : ℕ} {c : GateCall} {v : Visit} {gate : Gate}
    (h : s.Kept settings) (hvalid : settings.breaker.invalid? = none)
    (hvisit : s.visits[place]? = some (.going c))
    (hpassage : Bulkhead.Passage s.gate.bulkhead c.standing gate.bulkhead v.standing)
    (hdeals : c.Deals now s.gate.breaker v gate.breaker) :
    (s.turned now place c v gate).Kept settings := by
  obtain ⟨hlt, hgoing⟩ := List.getElem?_eq_some_iff.mp hvisit
  have hsettings := h.breaker_settings
  refine ⟨hdeals.settings.trans hsettings, ?_, ?_, ?_, fun other v' hv' ↦ ?_, fun e he ↦ ?_⟩
  · simp only [Traffic.turned, List.map_set]
    refine h.slots.pass ?_ hpassage
    simp [hvisit, Visit.standing]
  · have hrest := (List.getElem_cons_eraseIdx_perm hlt).symm.flatMap_right Visit.permits
    rw [hgoing, List.flatMap_cons] at hrest
    have hwatched := hdeals.watched (hsettings ▸ hvalid) (h.watched.perm hrest)
    refine hwatched.perm ?_
    rw [← List.flatMap_cons]
    exact ((List.set_perm_cons_eraseIdx hlt v).flatMap_right Visit.permits).symm
  · have hmap : (s.turned now place c v gate).log.map Prod.snd =
        Visit.dealings now c v ++ s.log.map Prod.snd := by
      simp [Traffic.turned, Function.comp_def]
    rw [hmap]
    exact h.ledger.append hdeals.ledger
  · rw [dealings_turned]
    split_ifs with hsame
    · subst hsame
      simp only [Traffic.turned, List.getElem?_set_self hlt, Option.some.injEq] at hv'
      obtain rfl := hv'
      exact hdeals.bill (h.bills other _ hvisit)
    · simp only [Traffic.turned, List.getElem?_set_ne (Ne.symm hsame)] at hv'
      exact h.bills other v' hv'
  · simp only [Traffic.turned, List.length_set] at he ⊢
    rcases List.mem_append.mp he with hnew | hold
    · obtain ⟨d, -, rfl⟩ := List.mem_map.mp hnew
      exact hlt
    · exact h.places e hold

theorem Kept.step (h : s.Kept settings) (hvalid : settings.breaker.invalid? = none)
    (hmove : Move f s s') : s'.Kept settings := by
  cases hmove with
  | come url payload => exact h.come url payload
  | turn hvisit hstep =>
    have hadvance := GateCall.advance_of_step hstep
    exact h.turned hvalid hvisit (GateCall.passage_of_advance hadvance)
      (GateCall.deals_of_advance hadvance)
  | drop now sender hvisit =>
    exact h.turned hvalid hvisit
      (GateCall.passage_of_cancel (s := ⟨s.gate, sender, []⟩))
      (GateCall.deals_of_cancel (s := ⟨s.gate, sender, []⟩))

theorem Kept.reaches (h : s.Kept settings) (hvalid : settings.breaker.invalid? = none)
    (hreaches : Reaches f s s') : s'.Kept settings := by
  induction hreaches with
  | refl => exact h
  | tail _ hmove ih => exact ih.step hvalid hmove

/-! ### Those who are turned away -/

/-- A visit is as it was, or has moved on by one move. -/
theorem Move.leads (h : Move f s s') {place : ℕ} {v : Visit} (hv : s.visits[place]? = some v) :
    ∃ v', s'.visits[place]? = some v' ∧ v.Leads v' := by
  have hturned : ∀ {now other c w gate}, s.visits[other]? = some (.going c) →
      (Visit.going c).Leads w →
      ∃ v', (s.turned now other c w gate).visits[place]? = some v' ∧ v.Leads v' := by
    intro now other c w gate hother hleads
    by_cases hsame : other = place
    · subst hsame
      obtain ⟨hlt, -⟩ := List.getElem?_eq_some_iff.mp hother
      obtain rfl := Option.some.inj (hv.symm.trans hother)
      exact ⟨w, List.getElem?_set_self hlt, hleads⟩
    · exact ⟨v, by rwa [turned, List.getElem?_set_ne hsame], .refl v⟩
  cases h with
  | come url payload =>
    obtain ⟨hlt, -⟩ := List.getElem?_eq_some_iff.mp hv
    exact ⟨v, by rwa [List.getElem?_append_left hlt], .refl v⟩
  | turn hvisit hstep =>
    exact hturned hvisit (GateCall.leads_of_advance (GateCall.advance_of_step hstep))
  | drop now sender hvisit => exact hturned hvisit GateCall.leads_of_cancel

theorem Reaches.leads (h : Reaches f s s') {place : ℕ} {v : Visit}
    (hv : s.visits[place]? = some v) : ∃ v', s'.visits[place]? = some v' ∧ v.Leads v' := by
  induction h with
  | refl => exact ⟨v, hv, .refl v⟩
  | tail _ hmove ih =>
    obtain ⟨v', hv', hleads⟩ := ih
    obtain ⟨v'', hv'', hlast⟩ := hmove.leads hv'
    exact ⟨v'', hv'', hleads.trans hlast⟩

/-! ### Nothing leaks -/

/-- A slot that is granted is granted to one call in line, and no call in line came before it that
has none. -/
theorem Kept.granted_first (h : s.Kept settings) {ticket : ℕ}
    (hticket : ticket ∈ s.gate.bulkhead.granted) :
    s.waiting ticket = 1 ∧
      ∀ other, other ∉ s.gate.bulkhead.granted → s.waiting other ≠ 0 → ticket < other := by
  constructor
  · rw [waiting, ← h.slots.tickets_count]
    exact List.count_eq_one_of_mem h.slots.tickets_nodup (List.mem_append_left _ hticket)
  · intro other hother hwaiting
    rw [waiting, ← h.slots.tickets_count] at hwaiting
    have hmem := List.count_pos_iff.mp (Nat.pos_of_ne_zero hwaiting)
    rcases List.mem_append.mp hmem with hgranted | hqueue
    · exact absurd hgranted hother
    · exact h.slots.granted_first ticket hticket other hqueue

/-- While no call is in flight, all slots are free and no trial is under way. -/
theorem Kept.idle (h : s.Kept settings) (hidle : s.Idle) :
    s.gate.bulkhead.free = settings.bulkhead.maxConcurrent ∧ s.gate.breaker.trials = 0 := by
  have hstanding : ∀ v : Visit, v.isOver = true → v.standing = .outside ∧ v.permits = [] := by
    intro v hover
    cases v with
    | going c => simp [Visit.isOver] at hover
    | ended answer => exact ⟨rfl, rfl⟩
    | dropped => exact ⟨rfl, rfl⟩
  constructor
  · refine (h.slots.free_eq fun x hx ↦ ?_).1
    obtain ⟨v, hv, rfl⟩ := List.mem_map.mp hx
    exact (hstanding v (hidle v hv)).1
  · have hnone : s.visits.flatMap Visit.permits = [] :=
      List.flatMap_eq_nil_iff.mpr fun v hv ↦ (hstanding v (hidle v hv)).2
    rw [h.watched.trials_eq, hnone, List.countP_nil]

/-- However many calls come to a gate, and however they move, fail, crash or are dropped, at every
moment the slots that are free, granted and held are all there are, so no more calls are past the
bulkhead than its settings allow; a slot that is granted belongs to the first in line. Who is turned
away for want of a slot never had one and never gets one. Every call has dealt with the breaker as
its bill says: it was granted at most one permit, and this was settled at most once, with a success
if the call has ended delivered and with a failure if it has ended failed; nothing else was done to
the breaker, and it counts the trials that calls hold. While no call is in flight, all slots are
free and no trial is under way. -/
theorem nothing_leaks {resource : String} {g : Gate} (hvalid : settings.invalid? = none)
    (hnew : Gate.new resource settings = .ok g) (hreaches : Reaches f { gate := g } s) :
    (s.gate.bulkhead.free + s.gate.bulkhead.granted.length + s.holders =
        settings.bulkhead.maxConcurrent ∧
      s.holders ≤ settings.bulkhead.maxConcurrent ∧
      ∀ ticket ∈ s.gate.bulkhead.granted, s.waiting ticket = 1 ∧
        ∀ other, other ∉ s.gate.bulkhead.granted → s.waiting other ≠ 0 → ticket < other) ∧
    (∀ (s' : Traffic) (place : ℕ), Reaches f s s' →
      (s'.visits[place]? = some Visit.turnedAway →
        ∀ v : Visit, s.visits[place]? = some v → v.standing ≠ .inside) ∧
      (s.visits[place]? = some Visit.turnedAway →
        s'.visits[place]? = some Visit.turnedAway)) ∧
    (∀ (place : ℕ) (v : Visit), s.visits[place]? = some v →
      v.Bill (s.dealings place) ∧
      (s.dealings place).countP Dealing.isSettlement ≤ 1 ∧
      (v.isAnswered = true → (s.dealings place).countP Dealing.isSettlement = 1)) ∧
    Dealt { settings := settings.breaker } (s.log.map Prod.snd) s.gate.breaker ∧
    s.gate.breaker.trials = s.trials ∧
    (s.Idle →
      s.gate.bulkhead.free = settings.bulkhead.maxConcurrent ∧ s.gate.breaker.trials = 0) := by
  have h := (kept_start hvalid hnew).reaches (breaker_of_valid hvalid) hreaches
  have hslots := h.slots.slots_eq
  refine ⟨⟨hslots, ?_, fun ticket ↦ h.granted_first⟩, fun s' place hlater ↦ ⟨?_, ?_⟩,
    fun place v hv ↦ ?_, h.ledger, h.watched.trials_eq, h.idle⟩
  · rw [holders]
    omega
  · intro hturned v hv hinside
    obtain ⟨v', hv', hleads⟩ := hlater.leads hv
    obtain rfl := Option.some.inj (hv'.symm.trans hturned)
    obtain hstill | ⟨-, hne⟩ := hleads.entered hinside
    · cases hstill
    · exact hne rfl
  · intro hturned
    obtain ⟨v', hv', hleads⟩ := hlater.leads hturned
    rwa [hleads.gone rfl] at hv'
  · have hbill := h.bills place v hv
    exact ⟨hbill, hbill.settlements_le, hbill.settlements_eq⟩

/-! ### A run -/

/-- What happens next, with a sender that takes everything at once. -/
inductive Cue where
  | come
  | turn (place now : ℕ)
  | drop (place : ℕ)

/-- Plays some cues one after the other; none if a call cannot move. -/
def play (f : Feedback) : List Cue → Traffic → Option Traffic
  | [], s => some s
  | .come :: script, s =>
    play f script { s with visits := s.visits ++ [.going { url := "", payload := .null }] }
  | .turn place now :: script, s =>
    match s.visits[place]? with
    | some (.going c) =>
      match c.step f { now : Clock }.moment ⟨s.gate, .log, []⟩ with
      | some (turn, scene) => play f script (s.turned now place c (.ofTurn turn) scene.gate)
      | none => none
    | _ => none
  | .drop place :: script, s =>
    match s.visits[place]? with
    | some (.going c) =>
      play f script (s.turned 0 place c .dropped (c.cancel ⟨s.gate, .log, []⟩).gate)
    | _ => none

theorem reaches_of_play {script : List Cue} (h : play f script s = some s') :
    Reaches f s s' := by
  induction script generalizing s with
  | nil =>
    obtain rfl := Option.some.inj h
    exact .refl
  | cons cue rest ih =>
    cases cue with
    | come => exact .head (.come _ _) (ih h)
    | turn place now =>
      rw [play] at h
      split at h
      · rename_i c hvisit
        split at h
        · rename_i turn scene hstep
          exact .head (.turn hvisit hstep) (ih h)
        · cases h
      · cases h
    | drop place =>
      rw [play] at h
      split at h
      · rename_i c hvisit
        exact .head (.drop 0 .log hvisit) (ih h)
      · cases h

/-- A gate with one slot, for which calls wait a second. -/
def narrow : GateSettings := { bulkhead := { maxConcurrent := 1, maxWait := .ofSecs 1 } }

/-- The first call is dropped in its attempt, the slot goes to the second, and the third waits in
vain. -/
theorem nothing_leaks_narrow :
    narrow.invalid? = none ∧ ∃ g s, Gate.new "slack" narrow = .ok g ∧
      Reaches {} { gate := g } s ∧
      s.visits.map Visit.settlement? = [some .drop, some .succeed, none] ∧
      s.gate.bulkhead.free + s.gate.bulkhead.granted.length + s.holders = 1 ∧
      (s.dealings 1).countP Dealing.isSettlement = 1 ∧
      s.gate.bulkhead.free = 1 ∧ s.gate.breaker.trials = 0 := by
  have hvalid : narrow.invalid? = none := by decide
  have hrun : ((Gate.new "slack" narrow).toOption.bind fun g ↦
      (play {} [.come, .come, .come, .turn 0 0, .turn 0 0, .turn 1 0, .turn 2 0, .drop 0,
        .turn 1 0, .turn 2 (Duration.ofSecs 1).nanos, .turn 1 (Duration.ofSecs 1).nanos,
        .turn 1 (Duration.ofSecs 1).nanos] { gate := g }).map fun s ↦
          (s.visits.map Visit.settlement?, s.visits.all Visit.isOver,
            s.visits[1]?.map Visit.isAnswered)) =
      some ([some .drop, some .succeed, none], true, some true) := by rfl
  obtain ⟨g, hg, hrun⟩ := Option.bind_eq_some_iff.mp hrun
  obtain ⟨s, hs, heq⟩ := Option.map_eq_some_iff.mp hrun
  obtain ⟨hsettlements, hover, hanswered⟩ := by simpa using heq
  have hnew : Gate.new "slack" narrow = .ok g := by
    cases h : Gate.new "slack" narrow with
    | error reason => simp [h, Except.toOption] at hg
    | ok made => rw [h] at hg; exact congrArg _ (Option.some.inj hg)
  have hreaches := reaches_of_play hs
  obtain ⟨⟨hslots, -⟩, -, hbills, -, -, hidle⟩ := nothing_leaks hvalid hnew hreaches
  obtain ⟨v, hv, hanswered⟩ := hanswered
  exact ⟨hvalid, g, s, hnew, hreaches, hsettlements, hslots, (hbills 1 v hv).2.2 hanswered,
    hidle hover⟩

end Traffic

end Courier

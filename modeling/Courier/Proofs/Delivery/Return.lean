import Courier.Proofs.Delivery.Exits
import Courier.Proofs.Delivery.Ledger
import Courier.Proofs.Gate.Ending
import Mathlib.Data.Prod.Lex
import Mathlib.Order.WellFounded

/-!
# A dispatch returns

While a dispatch is under way, others are at work on the depot. `Depot.Upholds` is all that a
delivery relies on: the listener stays, the clock does not go back, and a sender or a gate that is
there stays there, the gate with its settings. Every move of a delivery upholds the same for all
others (`Delivery.upholds_of_advance`).

A dispatch returns (`Dispatch.Returns`) if at every moment, whatever others do, some move of it is
possible once its deadlines have passed, and it cannot go on moving for ever. The proof is by a
measure of two parts, the deliveries that have not come to their gates yet and the moves that calls
have left.
-/

set_option autoImplicit false
set_option relaxedAutoImplicit false

namespace Courier

/-! ### Gates -/

namespace GateRegistry

variable {r r' r'' : GateRegistry} {resource : String} {g g' : Gate}

/-- Each gate is filed under its own resource. -/
def Orderly (r : GateRegistry) : Prop :=
  ∀ resource g, r.get? resource = some g → g.resource = resource

/-- The gates that are there stay there with their settings. -/
structure Keeps (r r' : GateRegistry) : Prop where
  gates : ∀ resource g, r.get? resource = some g →
    ∃ g', r'.get? resource = some g' ∧ g.Matches g'
  orderly : r.Orderly → r'.Orderly

theorem Keeps.refl (r : GateRegistry) : r.Keeps r :=
  ⟨fun _ g hg ↦ ⟨g, hg, .refl g⟩, id⟩

theorem Keeps.trans (h : r.Keeps r') (h' : r'.Keeps r'') : r.Keeps r'' where
  gates resource g hg := by
    obtain ⟨g', hg', hmatches⟩ := h.gates resource g hg
    obtain ⟨g'', hg'', hlast⟩ := h'.gates resource g' hg'
    exact ⟨g'', hg'', hmatches.trans hlast⟩
  orderly horderly := h'.orderly (h.orderly horderly)

theorem get?_set (r : GateRegistry) (g : Gate) (resource : String) :
    (r.set g).get? resource = if resource = g.resource then some g else r.get? resource :=
  Json.lookup_insertMember g.resource resource g r.gates

/-- A gate is put back. -/
theorem keeps_set (horderly : r.Orderly) (hget : r.get? resource = some g)
    (hmatches : g.Matches g') : r.Keeps (r.set g') where
  gates other h hh := by
    have hresource : g'.resource = resource := hmatches.resource.trans (horderly resource g hget)
    rw [get?_set, hresource]
    split_ifs with hother
    · subst hother
      obtain rfl := Option.some.inj (hh.symm.trans hget)
      exact ⟨g', rfl, hmatches⟩
    · exact ⟨h, hh, .refl h⟩
  orderly _ other h hh := by
    rw [get?_set] at hh
    split_ifs at hh with hother
    · obtain rfl := Option.some.inj hh
      exact hother.symm
    · exact horderly other h hh

theorem resource_of_new {settings : GateSettings} (h : Gate.new resource settings = .ok g) :
    g.resource = resource := by
  unfold Gate.new at h
  simp only [bind, Except.bind] at h
  split at h
  · cases h
  · split at h <;> cases h
    rfl

/-- A gate is asked for and made if there is none. -/
theorem keeps_of_gate (h : r.gate resource = .ok (g, r')) :
    r.Keeps r' ∧ r'.get? resource = some g := by
  unfold gate at h
  split at h
  · rename_i hget
    cases h
    exact ⟨.refl r, hget⟩
  · rename_i hnone
    split at h <;> cases h
    rename_i hnew
    have hresource := resource_of_new hnew
    refine ⟨⟨fun other h hh ↦ ⟨h, ?_, .refl h⟩, fun horderly other h hh ↦ ?_⟩, ?_⟩
    · rw [get?_set, hresource, if_neg, hh]
      rintro rfl
      exact absurd (hnone.symm.trans hh) (by simp)
    · rw [get?_set] at hh
      split_ifs at hh with hother
      · obtain rfl := Option.some.inj hh
        exact hother.symm
      · exact horderly other h hh
    · rw [get?_set, if_pos hresource.symm]

end GateRegistry

/-! ### What others leave -/

/-- What a delivery relies on while others are at work. -/
structure Depot.Upholds (d d' : Depot) : Prop where
  observed : d'.observed = d.observed
  clock : d.clock.now ≤ d'.clock.now
  senders : ∀ platform, (d.senders.get? platform).isSome → (d'.senders.get? platform).isSome
  gates : d.gates.Keeps d'.gates

namespace Depot

variable {d d' d'' : Depot}

theorem Upholds.trans (h : d.Upholds d') (h' : d'.Upholds d'') : d.Upholds d'' :=
  ⟨h'.observed.trans h.observed, Nat.le_trans h.clock h'.clock,
    fun platform hsome ↦ h'.senders platform (h.senders platform hsome), h.gates.trans h'.gates⟩

theorem upholds_of_call {resource platform : String} {c : GateCall}
    {turn : Turn GateCall GateCall.End} (horderly : d.gates.Orderly)
    (h : d.call resource platform c = some (turn, d')) : d.Upholds d' := by
  obtain ⟨gate, sender, scene, hgate, -, hstep, rfl⟩ := call_hears h
  refine ⟨rfl, Nat.le_refl _, fun other hsome ↦ ?_, ?_⟩
  · simp only [SenderRegistry.get?, SenderRegistry.set, Json.lookup_insertMember]
    split_ifs
    · rfl
    · exact hsome
  · exact GateRegistry.keeps_set horderly hgate
      (GateCall.matches_of_advance (GateCall.advance_of_step hstep))

/-- A call that can move at its gate can move in the depot. -/
theorem call_isSome {resource platform : String} {c : GateCall} {gate : Gate} {sender : Sender}
    (hgate : d.gates.get? resource = some gate) (hsender : d.senders.get? platform = some sender)
    (hstep : (c.step d.gates.feedback d.moment { gate, sender }).isSome) :
    (d.call resource platform c).isSome := by
  obtain ⟨⟨turn, scene⟩, hstep⟩ := Option.isSome_iff_exists.mp hstep
  have hgate' : d.tick.gates.get? resource = some gate := hgate
  have hsender' : d.tick.senders.get? platform = some sender := hsender
  simp only [call, onScene, hgate', hsender', hstep]
  rfl

end Depot

/-! ### Deliveries -/

namespace Delivery

variable {t : Delivery} {d d' : Depot}

theorem upholds_of_fail (t : Delivery) (d : Depot) (payload : Option Json)
    (failure : DeliveryFailure) (attempts : ℕ) :
    d.Upholds (t.fail d payload failure attempts).2 := by
  obtain ⟨answer, letters, -, hfail⟩ := t.fail_hears d payload failure attempts
  rw [hfail]
  exact ⟨rfl, Nat.le_refl _, fun _ ↦ id, .refl _⟩

theorem done_of_fail (t : Delivery) (d : Depot) (payload : Option Json)
    (failure : DeliveryFailure) (attempts : ℕ) :
    ∃ report, (t.fail d payload failure attempts).1 = .done report := by
  obtain ⟨answer, letters, -, hfail⟩ := t.fail_hears d payload failure attempts
  exact ⟨_, congrArg Prod.fst hfail⟩

/-- A move of a delivery leaves others what they rely on. -/
theorem upholds_of_advance {turn : Turn Delivery DeliveryReport} (horderly : d.gates.Orderly)
    (h : t.Advance d turn d') : d.Upholds d' := by
  cases h with
  | barred => exact t.upholds_of_fail d _ _ _
  | opens hcall hclears =>
    obtain ⟨g, hgate⟩ := hclears.gate
    exact ⟨rfl, Nat.le_refl _, fun _ ↦ id, (GateRegistry.keeps_of_gate hgate).1⟩
  | calls hcall hmove | delivers hcall hmove => exact Depot.upholds_of_call horderly hmove
  | fails hcall hmove =>
    exact (Depot.upholds_of_call horderly hmove).trans (t.upholds_of_fail _ _ _ _)

/-- A delivery that has come to its gate finds gate and sender. -/
def Ready (t : Delivery) (d : Depot) : Prop :=
  t.call.isSome → (d.gates.get? t.target.resource).isSome ∧
    (d.senders.get? t.target.platform).isSome

theorem Ready.upholds (h : t.Ready d) (hupholds : d.Upholds d') : t.Ready d' := by
  intro hcall
  obtain ⟨hgate, hsender⟩ := h hcall
  obtain ⟨g, hg⟩ := Option.isSome_iff_exists.mp hgate
  obtain ⟨g', hg', -⟩ := hupholds.gates.gates _ g hg
  exact ⟨Option.isSome_iff_exists.mpr ⟨g', hg'⟩, hupholds.senders _ hsender⟩

/-- A delivery that goes on finds gate and sender. -/
theorem ready_of_advance {t' : Delivery} (hready : t.Ready d) (horderly : d.gates.Orderly)
    (h : t.Advance d (.going t') d') : t'.Ready d' := by
  have hupholds := upholds_of_advance horderly h
  generalize hturn : (Turn.going t' : Turn Delivery DeliveryReport) = turn at h
  cases h with
  | barred =>
    obtain ⟨report, hreport⟩ := t.done_of_fail d _ _ _
    cases hturn.trans hreport
  | opens hcall hclears =>
    obtain rfl := Turn.going.inj hturn
    obtain ⟨g, hgate⟩ := hclears.gate
    exact fun _ ↦
      ⟨Option.isSome_iff_exists.mpr ⟨g, (GateRegistry.keeps_of_gate hgate).2⟩, hclears.sender⟩
  | calls hcall hmove =>
    obtain rfl := Turn.going.inj hturn
    exact fun _ ↦ hready.upholds hupholds (by rw [hcall]; rfl)
  | delivers => cases hturn
  | fails =>
    obtain ⟨report, hreport⟩ := t.done_of_fail _ _ _ _
    cases hturn.trans hreport

/-- A bound on the moves that a delivery has left behind its gate. -/
def remaining (d : Depot) (t : Delivery) : ℕ :=
  match t.call, d.gates.get? t.target.resource with
  | some c, some g => c.remaining g + 1
  | _, _ => 0

theorem remaining_of_upholds (hready : t.Ready d) (hupholds : d.Upholds d') :
    t.remaining d' = t.remaining d := by
  cases hcall : t.call with
  | none => simp only [remaining, hcall]
  | some c =>
    obtain ⟨g, hg⟩ := Option.isSome_iff_exists.mp (hready (by rw [hcall]; rfl)).1
    obtain ⟨g', hg', hmatches⟩ := hupholds.gates.gates _ g hg
    simp only [remaining, hcall, hg, hg', GateCall.remaining_of_matches hmatches]

/-- Behind its gate a delivery has fewer moves left after each of them. -/
theorem remaining_of_call {c c' : GateCall} (horderly : d.gates.Orderly) (hcall : t.call = some c)
    (hmove : d.call t.target.resource t.target.platform c = some (.going c', d')) :
    remaining d' { t with call := some c' } < t.remaining d := by
  have hupholds := Depot.upholds_of_call horderly hmove
  obtain ⟨gate, sender, scene, hgate, -, hstep, -⟩ := Depot.call_hears hmove
  obtain ⟨gate', hgate', hmatches⟩ := hupholds.gates.gates _ gate hgate
  have hless := GateCall.remaining_of_advance (GateCall.advance_of_step hstep)
  simp only [remaining, hcall, hgate, hgate', GateCall.remaining_of_matches hmatches]
  exact Nat.succ_lt_succ hless

/-- Once its deadlines have passed, a delivery can move. -/
theorem moves_of_deadlines (hready : t.Ready d) (h : ∀ i ∈ t.deadlines, i ≤ d.clock.now) :
    (t.step d).isSome := by
  cases hcall : t.call with
  | none => simp [step, hcall]
  | some c =>
    obtain ⟨hgate, hsender⟩ := hready (by rw [hcall]; rfl)
    obtain ⟨gate, hgate⟩ := Option.isSome_iff_exists.mp hgate
    obtain ⟨sender, hsender⟩ := Option.isSome_iff_exists.mp hsender
    have hdeadlines : ∀ i ∈ c.deadlines, i ≤ d.moment.now := by
      simp only [deadlines, hcall] at h
      exact h
    have hmove := Depot.call_isSome hgate hsender
      (GateCall.moves_of_deadlines hdeadlines d.gates.feedback { gate, sender })
    obtain ⟨⟨turn, site⟩, hmove⟩ := Option.isSome_iff_exists.mp hmove
    simp only [step, hcall, hmove]
    cases turn <;> rfl

end Delivery

/-! ### Dispatches -/

namespace Dispatch

/-- A dispatch returns, whatever others do meanwhile: it has, or it can move whenever its deadlines
have passed, and returns after each move that it may make. -/
inductive Returns : Turn Dispatch (List DeliveryReport) → Depot → Prop where
  | ended (reports : List DeliveryReport) (d : Depot) : Returns (.done reports) d
  | going {t : Dispatch} {d : Depot}
      (hmoves : ∀ d', d.Upholds d' → (∀ i ∈ t.deadlines, i ≤ d'.clock.now) →
        ∃ place, (t.stepOne place d').isSome)
      (hreturns : ∀ d' place next site, d.Upholds d' → t.stepOne place d' = some (next, site) →
        Returns next site) :
      Returns (.going t) d

variable {d d' : Depot} {deliveries : List (Turn Delivery DeliveryReport)}

/-- The delivery has not come to its gate yet. -/
def isUnopened : Turn Delivery DeliveryReport → Bool
  | .going t => t.call.isNone
  | .done _ => false

/-- A bound on the moves that a delivery has left, if it has come to its gate. -/
def movesLeft (d : Depot) : Turn Delivery DeliveryReport → ℕ
  | .going t => t.remaining d
  | .done _ => 0

/-- The deliveries that have come to their gates find them and their senders. -/
def AllReady (deliveries : List (Turn Delivery DeliveryReport)) (d : Depot) : Prop :=
  ∀ t, Turn.going t ∈ deliveries → t.Ready d

theorem AllReady.upholds (h : AllReady deliveries d) (hupholds : d.Upholds d') :
    AllReady deliveries d' :=
  fun t ht ↦ (h t ht).upholds hupholds

theorem allReady_start (n : Notification) (d : Depot) : AllReady (start n d) d := by
  intro t ht hcall
  obtain ⟨target, -, heq⟩ := List.mem_map.mp ht
  obtain rfl := Turn.going.inj heq
  cases hcall

/-- The move of one delivery leaves all of them ready. -/
theorem AllReady.set {t : Delivery} {turn : Turn Delivery DeliveryReport} {place : ℕ}
    (h : AllReady deliveries d) (horderly : d.gates.Orderly)
    (ht : deliveries[place]? = some (.going t)) (hadvance : t.Advance d turn d') :
    AllReady (deliveries.set place turn) d' := by
  intro other hother
  obtain hother | rfl := List.mem_or_eq_of_mem_set hother
  · exact (h other hother).upholds (Delivery.upholds_of_advance horderly hadvance)
  · exact Delivery.ready_of_advance (h t (List.mem_of_getElem? ht)) horderly hadvance

theorem movesLeft_of_upholds (h : AllReady deliveries d) (hupholds : d.Upholds d') :
    deliveries.map (movesLeft d') = deliveries.map (movesLeft d) := by
  refine List.map_congr_left fun turn hturn ↦ ?_
  cases turn with
  | going t => exact Delivery.remaining_of_upholds (h t hturn) hupholds
  | done report => rfl

/-- A move brings a delivery to its gate, ends it or takes one of the moves that it has left. -/
theorem measure_set {t : Delivery} {turn : Turn Delivery DeliveryReport} {place : ℕ}
    (hready : AllReady deliveries d) (horderly : d.gates.Orderly)
    (ht : deliveries[place]? = some (.going t)) (hadvance : t.Advance d turn d') :
    (deliveries.set place turn).countP isUnopened < deliveries.countP isUnopened ∨
      (deliveries.set place turn).countP isUnopened = deliveries.countP isUnopened ∧
        ((deliveries.set place turn).map (movesLeft d')).sum <
          (deliveries.map (movesLeft d)).sum := by
  have hupholds := Delivery.upholds_of_advance horderly hadvance
  have hopened : t.call = none → isUnopened turn = false →
      (deliveries.set place turn).countP isUnopened < deliveries.countP isUnopened := by
    intro hcall hafter
    have hcount := countP_set ht isUnopened turn
    have hbefore : isUnopened (.going t) = true := by rw [isUnopened, hcall, Option.isNone_none]
    rw [hbefore, hafter, if_pos rfl, if_neg Bool.false_ne_true] at hcount
    omega
  have hbehind : t.call.isSome → isUnopened turn = false → movesLeft d' turn < t.remaining d →
      (deliveries.set place turn).countP isUnopened = deliveries.countP isUnopened ∧
        ((deliveries.set place turn).map (movesLeft d')).sum <
          (deliveries.map (movesLeft d)).sum := by
    intro hcall hafter hless
    have hcount := countP_set ht isUnopened turn
    have hbefore : isUnopened (.going t) = false := by
      rw [isUnopened, Option.isNone_eq_false_iff.mpr hcall]
    rw [hbefore, hafter] at hcount
    -- counted in the depot after the move, in which all others have as many moves left as before it
    have hsum := sum_map_set ht (movesLeft d') turn
    rw [movesLeft_of_upholds hready hupholds] at hsum
    have hsame := Delivery.remaining_of_upholds (hready t (List.mem_of_getElem? ht)) hupholds
    change _ + t.remaining d' = _ at hsum
    exact ⟨Nat.add_right_cancel hcount, by omega⟩
  have hleft : ∀ c : GateCall, t.call = some c → 0 < t.remaining d := by
    intro c hcall
    obtain ⟨g, hg⟩ := Option.isSome_iff_exists.mp
      (hready t (List.mem_of_getElem? ht) (by rw [hcall]; rfl)).1
    simp only [Delivery.remaining, hcall, hg]
    exact Nat.succ_pos _
  cases hadvance with
  | barred hcall =>
    obtain ⟨report, hreport⟩ := t.done_of_fail d _ _ _
    exact .inl (hopened hcall (by rw [hreport]; rfl))
  | opens hcall => exact .inl (hopened hcall rfl)
  | @calls c c' _ hcall hmove =>
    exact .inr (hbehind (by rw [hcall]; rfl) rfl (Delivery.remaining_of_call horderly hcall hmove))
  | delivers hcall => exact .inr (hbehind (by rw [hcall]; rfl) rfl (hleft _ hcall))
  | fails hcall =>
    obtain ⟨report, hreport⟩ := t.done_of_fail _ _ _ _
    rw [hreport] at hbehind ⊢
    exact .inr (hbehind (by rw [hcall]; rfl) rfl (hleft _ hcall))

/-- A delivery that can move is one that the dispatch can move. -/
theorem stepAt_isSome {place : ℕ} {t : Delivery} (ht : deliveries[place]? = some (.going t))
    (hstep : (t.step d).isSome) : (stepAt place deliveries d).isSome := by
  induction place generalizing deliveries with
  | zero =>
    cases deliveries with
    | nil => simp at ht
    | cons first rest =>
      obtain rfl : first = .going t := by simpa using ht
      simpa [stepAt] using hstep
  | succ place ih =>
    cases deliveries with
    | nil => simp at ht
    | cons first rest => simpa [stepAt] using ih (by simpa using ht)

theorem exists_going_of_reports (h : reports? deliveries = none) :
    ∃ (place : ℕ) (t : Delivery), deliveries[place]? = some (.going t) := by
  induction deliveries with
  | nil => simp [reports?] at h
  | cons first rest ih =>
    cases first with
    | going t => exact ⟨0, t, rfl⟩
    | done report =>
      obtain ⟨place, t, ht⟩ := ih (Option.map_eq_none_iff.mp h)
      exact ⟨place + 1, t, ht⟩

/-- Once its deadlines have passed, a dispatch can move. -/
theorem moves_of_deadlines (hready : AllReady deliveries d)
    (h : ∀ i ∈ deadlines (.delivering deliveries), i ≤ d.clock.now) :
    ∃ place, (stepOne place (.delivering deliveries) d).isSome := by
  cases hreports : reports? deliveries with
  | some reports => exact ⟨0, by simp [stepOne, hreports]⟩
  | none =>
    obtain ⟨place, t, ht⟩ := exists_going_of_reports hreports
    have hmem := List.mem_of_getElem? ht
    have hstep : (t.step d).isSome := by
      refine Delivery.moves_of_deadlines (hready t hmem) fun i hi ↦ h i ?_
      exact List.mem_flatMap.mpr ⟨_, hmem, hi⟩
    exact ⟨place, by simpa [stepOne, hreports] using stepAt_isSome ht hstep⟩

/-- Deliveries under way end. The measure is what `measure_set` makes smaller. -/
theorem returns_of_delivering (hready : AllReady deliveries d) (horderly : d.gates.Orderly) :
    Returns (.going (.delivering deliveries)) d := by
  generalize hmeasure : toLex
    (deliveries.countP isUnopened, (deliveries.map (movesLeft d)).sum) = measure
  induction measure using WellFoundedLT.induction generalizing deliveries d with
  | ind measure ih =>
    -- what others do leaves the measure as it is, so the move is compared with the depot it finds
    refine .going (fun d' hupholds ↦ moves_of_deadlines (hready.upholds hupholds))
      fun d' place next site hupholds hstep ↦ ?_
    have hready' := hready.upholds hupholds
    have horderly' := hupholds.gates.orderly horderly
    obtain ⟨n, heq, -⟩ | ⟨others, t, turn, heq, ht, hturn, rfl⟩ | ⟨_, reports, -, rfl, -⟩ :=
      stepOne_cases hstep
    · cases heq
    · obtain rfl := Dispatch.delivering.inj heq
      have hadvance := Delivery.advance_of_step hturn
      have hless := measure_set hready' horderly' ht hadvance
      rw [movesLeft_of_upholds hready hupholds] at hless
      refine ih _ ?_ (hready'.set horderly' ht hadvance)
        ((Delivery.upholds_of_advance horderly' hadvance).gates.orderly horderly') rfl
      rw [← hmeasure]
      exact Prod.Lex.toLex_lt_toLex.mpr hless
    · exact .ended reports site

/-- A dispatch returns. -/
theorem returns (n : Notification) (horderly : d.gates.Orderly) :
    Returns (.going (.pending n)) d := by
  refine .going (fun d' _ _ ↦ ⟨0, rfl⟩) fun d' place next site hupholds hstep ↦ ?_
  obtain ⟨rfl, rfl⟩ := Prod.mk.inj (Option.some.inj hstep)
  exact returns_of_delivering (allReady_start n d') (hupholds.gates.orderly horderly)

end Dispatch

end Courier

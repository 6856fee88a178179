import Courier.Delivery.Dispatch
import Courier.Proofs.Depot
import Courier.Proofs.Gate.Events

/-!
# How deliveries end

`Delivery.Advance` has one constructor for each way in which a delivery can move, over any store: it
does not come to its gate, it begins its call, the call goes on, the gate has delivered, or it has
not. A delivery makes no other move (`Delivery.advance_of_step`).

`Depot.Bars` lists what may stand in the way to the gate, each thing with what comes before it, and
`Setback` the answers of a gate that has not delivered. A delivery that ends without success reports
it, stores one dead letter and reports what came of that (`Delivery.fail_hears`).
-/

set_option autoImplicit false
set_option relaxedAutoImplicit false

namespace Courier

/-! ### On the way to the gate -/

namespace Depot

/-- A notification is rendered for a platform. -/
def Renders (d : Depot) (n : Notification) (platform : String) (payload : Json) : Prop :=
  ∃ formatter, d.formatters.resolve platform n.typeId = some formatter ∧
    formatter.format d.types n = .payload payload ∧ isEmptyPayload payload = false

/-- Why a notification does not come to the gate of a target, and the payload if it was rendered. -/
inductive Bars (d : Depot) (n : Notification) (target : Target) :
    DeliveryFailure → Option Json → Prop where
  | noFormatter (hformatter : d.formatters.resolve target.platform n.typeId = none) :
      Bars d n target .noFormatter none
  | contextMismatch {formatter : Formatter} {reason : FormatError}
      (hformatter : d.formatters.resolve target.platform n.typeId = some formatter)
      (hformat : formatter.format d.types n = .refused reason)
      (hreason : reason.isContextMismatch = true) :
      Bars d n target (.contextMismatch reason.message) none
  | formatFailed {formatter : Formatter} {reason : FormatError}
      (hformatter : d.formatters.resolve target.platform n.typeId = some formatter)
      (hformat : formatter.format d.types n = .refused reason)
      (hreason : reason.isContextMismatch = false) :
      Bars d n target (.formatFailed reason.message) none
  | formatCrashed {formatter : Formatter} {reason : Crash}
      (hformatter : d.formatters.resolve target.platform n.typeId = some formatter)
      (hformat : formatter.format d.types n = .crashed reason) :
      Bars d n target (.crashed reason.message) none
  | emptyPayload {formatter : Formatter} {payload : Json}
      (hformatter : d.formatters.resolve target.platform n.typeId = some formatter)
      (hformat : formatter.format d.types n = .payload payload)
      (hempty : isEmptyPayload payload = true) :
      Bars d n target .emptyPayload none
  | noSender {payload : Json} (hrenders : d.Renders n target.platform payload)
      (hsender : d.senders.get? target.platform = none) :
      Bars d n target .noSender (some payload)
  | noGate {payload : Json} {reason : Crash} (hrenders : d.Renders n target.platform payload)
      (hsender : (d.senders.get? target.platform).isSome)
      (hgate : d.gates.gate target.resource = .error reason) :
      Bars d n target (.crashed reason.message) none

/-- A notification comes to the gate of a target. -/
structure Clears (d : Depot) (n : Notification) (target : Target) (payload : Json)
    (gates : GateRegistry) : Prop where
  renders : d.Renders n target.platform payload
  sender : (d.senders.get? target.platform).isSome
  gate : ∃ g, d.gates.gate target.resource = .ok (g, gates)

/-- Rendering ends in a payload, or bars the way to the gate. -/
theorem render_cases (d : Depot) (n : Notification) (target : Target) :
    (∃ reason, d.render n target.platform = .error reason ∧
      d.Bars n target (.crashed reason.message) none) ∨
    (∃ failure, d.render n target.platform = .ok (.error failure) ∧ d.Bars n target failure none) ∨
    ∃ payload, d.render n target.platform = .ok (.ok payload) ∧
      d.Renders n target.platform payload := by
  unfold render
  split
  · rename_i hformatter
    exact .inr (.inl ⟨_, rfl, .noFormatter hformatter⟩)
  · rename_i formatter hformatter
    split
    · rename_i reason hformat
      exact .inl ⟨reason, rfl, .formatCrashed hformatter hformat⟩
    · rename_i reason hformat
      refine .inr (.inl ⟨_, rfl, ?_⟩)
      unfold refusal
      split_ifs with hreason
      · exact .contextMismatch hformatter hformat hreason
      · exact .formatFailed hformatter hformat (Bool.eq_false_iff.mpr hreason)
    · rename_i payload hformat
      split_ifs with hempty
      · exact .inr (.inl ⟨_, rfl, .emptyPayload hformatter hformat hempty⟩)
      · exact .inr (.inr ⟨payload, rfl, formatter, hformatter, hformat,
          Bool.eq_false_iff.mpr hempty⟩)

end Depot

/-- What a call says is heard, and the call changes nothing that deliveries read but gates and
senders. -/
theorem Depot.call_says {d d' : Depot} {resource platform : String} {c : GateCall}
    {turn : Turn GateCall GateCall.End} (hobserved : d.observed = true)
    (h : d.call resource platform c = some (turn, d')) :
    d'.observed = true ∧ d'.letters = d.letters ∧ d'.routing = d.routing ∧
      ∃ name said, c.Says name turn said ∧ d'.events = said ++ d.events := by
  obtain ⟨gate, sender, scene, -, -, hstep, rfl⟩ := call_hears h
  exact ⟨hobserved, rfl, rfl, gate.resource, scene.events,
    GateCall.says_of_advance (GateCall.advance_of_step hstep) rfl,
    hears_of_observed hobserved _⟩

/-! ### Answers of the gate -/

/-- The answers of a gate that has not delivered a payload: the failure, what is kept of the payload
and the number of attempts. -/
inductive Setback (payload : Json) :
    GateCall.End → DeliveryFailure → Option Json → ℕ → Prop where
  | rejected (rejection : Rejection) :
      Setback payload (.ok (.rejected rejection)) rejection.failure (some payload) 0
  | failed (n : ℕ) (r : SendResult) :
      Setback payload (.ok (.failed n r)) (.sendFailed r.code r.errorMessage) (some payload) n
  | crashed (reason : Crash) :
      Setback payload (.error reason) (.crashed reason.message) none 0

/-- What is reported of a dead letter that was to be stored. -/
def DeadLetter.filed (resource : String) : Except StoreError EntryId → Event
  | .ok _ => .deadLetterCreated resource
  | .error _ => .deadLetterHandlerFailed resource

namespace Delivery

variable {t : Delivery} {d site : Depot}

/-- A delivery that ends without success stores one dead letter, and reports both. -/
theorem fail_hears (t : Delivery) (d : Depot) (payload : Option Json) (failure : DeliveryFailure)
    (attempts : ℕ) :
    ∃ answer letters,
      d.letters.store (.new d.moment t.notification t.target payload failure.message attempts) =
        (answer, letters) ∧
      t.fail d payload failure attempts =
        (.done ⟨t.target, attempts, some failure, answer.toOption⟩,
          { d.tick with
            letters
            events := d.hears
              [DeadLetter.filed t.target.resource answer,
                .failure t.target.resource failure] }) := by
  obtain ⟨answer, letters, hstore⟩ : ∃ answer letters,
      d.letters.store (.new d.moment t.notification t.target payload failure.message attempts) =
        (answer, letters) := ⟨_, _, rfl⟩
  refine ⟨answer, letters, hstore, ?_⟩
  have hhears : ∀ (first second : Event) (letters : DeadLetterStore),
      (({ (d.tick.report first) with letters } : Depot).report second) =
        { d.tick with letters, events := d.hears [second, first] } := by
    intro first second letters
    simp only [Depot.report_hears, Depot.hears, Depot.tick]
    split_ifs <;> rfl
  have hletters : ∀ e, (d.tick.report e).letters = d.letters := by
    intro e
    rw [Depot.report_hears]
    rfl
  simp only [fail, hletters, hstore]
  cases answer with
  | ok id => exact congrArg (Prod.mk _) (hhears _ _ _)
  | error reason => exact congrArg (Prod.mk _) (hhears _ _ _)

/-! ### The moves of a delivery -/

/-- The moves of a delivery: what it turns into and the depot afterwards. -/
inductive Advance (t : Delivery) (d : Depot) : Turn Delivery DeliveryReport → Depot → Prop where
  /-- The delivery does not come to its gate. -/
  | barred {failure : DeliveryFailure} {payload : Option Json} (hcall : t.call = none)
      (hbars : d.Bars t.notification t.target failure payload) :
      Advance t d (t.fail d payload failure 0).1 (t.fail d payload failure 0).2
  /-- The delivery begins its call. -/
  | opens {payload : Json} {gates : GateRegistry} (hcall : t.call = none)
      (hclears : d.Clears t.notification t.target payload gates) :
      Advance t d (.going { t with call := some { url := t.target.url, payload } })
        { d with gates }
  /-- The call goes on. -/
  | calls {c c' : GateCall} {site : Depot} (hcall : t.call = some c)
      (hmove : d.call t.target.resource t.target.platform c = some (.going c', site)) :
      Advance t d (.going { t with call := some c' }) site
  /-- The gate has delivered. -/
  | delivers {c : GateCall} {n : ℕ} {r : SendResult} {site : Depot} (hcall : t.call = some c)
      (hmove : d.call t.target.resource t.target.platform c =
        some (.done (.ok (.delivered n r)), site)) :
      Advance t d (.done ⟨t.target, n, none, none⟩) site
  /-- The gate has not delivered. -/
  | fails {c : GateCall} {answer : GateCall.End} {failure : DeliveryFailure}
      {payload : Option Json} {attempts : ℕ} {site : Depot} (hcall : t.call = some c)
      (hmove : d.call t.target.resource t.target.platform c = some (.done answer, site))
      (hsetback : Setback c.payload answer failure payload attempts) :
      Advance t d (t.fail site payload failure attempts).1 (t.fail site payload failure attempts).2

theorem advance_of_start (hcall : t.call = none) :
    Advance t d (t.start d).1 (t.start d).2 := by
  unfold start
  obtain ⟨reason, heq, hbars⟩ | ⟨failure, heq, hbars⟩ | ⟨payload, heq, hrenders⟩ :=
    d.render_cases t.notification t.target
  · rw [heq]
    exact .barred hcall hbars
  · rw [heq]
    exact .barred hcall hbars
  · rw [heq]
    simp only
    split_ifs with hsender
    · exact .barred hcall (.noSender hrenders (Option.isNone_iff_eq_none.mp hsender))
    · have hsome := Option.isSome_iff_ne_none.mpr fun h ↦ hsender (Option.isNone_iff_eq_none.mpr h)
      split
      · rename_i reason hgate
        exact .barred hcall (.noGate hrenders hsome hgate)
      · rename_i g gates hgate
        exact .opens hcall ⟨hrenders, hsome, g, hgate⟩

theorem advance_of_finish {c : GateCall} {answer : GateCall.End} (hcall : t.call = some c)
    (hmove : d.call t.target.resource t.target.platform c = some (.done answer, site)) :
    Advance t d (t.finish site c.payload answer).1 (t.finish site c.payload answer).2 := by
  cases answer with
  | error reason => exact .fails hcall hmove (.crashed reason)
  | ok outcome =>
    cases outcome with
    | delivered n r => exact .delivers hcall hmove
    | failed n r => exact .fails hcall hmove (.failed n r)
    | rejected rejection => exact .fails hcall hmove (.rejected rejection)

/-- A delivery makes no other moves. -/
theorem advance_of_step {turn : Turn Delivery DeliveryReport} (h : t.step d = some (turn, site)) :
    Advance t d turn site := by
  cases hcall : t.call with
  | none =>
    simp only [step, hcall] at h
    have hstart := advance_of_start (d := d) hcall
    rwa [Option.some.inj h] at hstart
  | some c =>
    simp only [step, hcall] at h
    split at h
    · cases h
    · rename_i hmove
      obtain ⟨rfl, rfl⟩ := Prod.mk.inj (Option.some.inj h)
      exact .calls hcall hmove
    · rename_i answer site hmove
      have hfinish := advance_of_finish hcall hmove
      rwa [Option.some.inj h] at hfinish

end Delivery

end Courier

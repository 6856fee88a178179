import Courier.Proofs.Delivery.Exits
import Courier.Proofs.Metrics
import Mathlib.Algebra.Order.Ring.Int
import Mathlib.Tactic.Linarith
import Mathlib.Tactic.Ring

/-!
# Laws of what is reported

Calls, deliveries and replays report events on different ways, and what they report is to fit
together. A `Law` gives events a weight, and so does it an attempt under way and the end of a
delivery; its equations say that each way of a call through its gate, and each way in which a
delivery fails, weighs what it ends in. So every move of a delivery balances: what it reports and
what the delivery weighed before is what it weighs then (`Law.balances_of_advance`).

A law that does not stand crashes speaks only of moves that report none (`Law.Stands`). Replays
report no dead letter; what they do is kept as a `Deed`, and `Law.deed` is what it has to weigh.
-/

set_option autoImplicit false
set_option relaxedAutoImplicit false

namespace Courier

/-- The failure was found before the gate was called, and is no crash. -/
def DeliveryFailure.isEarly : DeliveryFailure → Bool
  | .noFormatter | .contextMismatch _ | .formatFailed _ | .emptyPayload | .noSender => true
  | _ => false

/-- The failure that an answer of a gate means, if any. -/
def GateCall.failure? : GateCall.End → Option DeliveryFailure
  | .error reason => some (.crashed reason.message)
  | .ok outcome => outcome.failure?

/-- What replays do besides what they report. -/
inductive Deed where
  /-- An entry was claimed. -/
  | claimed
  /-- The replay of an entry did not deliver. -/
  | missed (failure : DeliveryFailure)
  deriving DecidableEq

/-- The failure of a replay that did not deliver. -/
def Deed.failure? : Deed → Option DeliveryFailure
  | .claimed => none
  | .missed failure => some failure

/-- Weights under which what is reported balances. -/
structure Law where
  event : Event → ℤ
  /-- What the counters say of the weight of all events. -/
  reading : Metrics → ℤ
  /-- What an attempt weighs that is under way. -/
  sending : ℤ
  /-- What the end of a delivery weighs, by its failure. -/
  ended : Option DeliveryFailure → ℤ
  /-- What it weighs what became of a dead letter. -/
  filing : ℤ
  /-- The law stands crashes. -/
  sturdy : Bool
  reading_empty : reading {} = 0
  reading_record : ∀ m e, reading (Metrics.record m e) = reading m + event e
  attempt : ∀ resource, event (.attempt resource) = sending
  retry : ∀ resource n, event (.retry resource n) = -sending
  signal : ∀ resource retryAfter, event (.externalRateLimit resource retryAfter) = 0
  success : ∀ resource, event (.success resource) = ended none - sending
  filed : ∀ resource answer, event (DeadLetter.filed resource answer) = filing
  rejected : ∀ resource name rejection,
    event (Rejection.event name rejection) + event (.failure resource rejection.failure) + filing =
      ended (some rejection.failure)
  sendFailed : ∀ resource code message,
    event (.failure resource (.sendFailed code message)) + filing =
      ended (some (.sendFailed code message)) - sending
  early : ∀ resource failure, DeliveryFailure.isEarly failure = true →
    event (.failure resource failure) + filing = ended (some failure)
  crash : sturdy = true → sending = 0 ∧ ∀ resource message,
    event (.failure resource (.crashed message)) + filing = ended (some (.crashed message))

namespace Law

variable (L : Law)

/-- What some events weigh. -/
def total (events : List Event) : ℤ := (events.map L.event).sum

/-- What an attempt of a call weighs, if one is under way. -/
def inAir (c : GateCall) : ℤ := if c.reply?.isSome then L.sending else 0

/-- What a delivery weighs. -/
def delivery : Turn Delivery DeliveryReport → ℤ
  | .going t => (t.call.map L.inAir).getD 0
  | .done report => L.ended report.failure

/-- What the deed of a replay weighs, so that a claim and how its replay ends weigh together what
the replay has reported. -/
def deed : Deed → ℤ
  | .claimed => -L.ended none
  | .missed failure => L.ended none - L.ended (some failure) + L.filing

/-- The law speaks of moves that report some events. -/
def Stands (events : List Event) : Prop :=
  L.sturdy = true ∨ ∀ e ∈ events, Event.isFailureOf "panicked" e = false

/-- From one depot to another, what was reported and done and what there was before weigh together
what there is then. -/
def Balances (d d' : Depot) (deeds : List Deed) (before after : ℤ) : Prop :=
  ∃ said, d'.events = said ++ d.events ∧
    (L.Stands said → L.total said + (deeds.map L.deed).sum + before = after)

variable {L} {d d' site : Depot}

@[simp] theorem total_nil : L.total [] = 0 := rfl

@[simp] theorem total_cons (e : Event) (events : List Event) :
    L.total (e :: events) = L.event e + L.total events := by
  rw [total, List.map_cons, List.sum_cons, total]

@[simp] theorem total_append (events others : List Event) :
    L.total (events ++ others) = L.total events + L.total others := by
  rw [total, total, total, List.map_append, List.sum_append]

theorem total_signals {signals : List Event} (h : ∀ e ∈ signals, Event.isSignal e = true) :
    L.total signals = 0 := by
  refine List.sum_eq_zero fun w hw ↦ ?_
  obtain ⟨e, he, rfl⟩ := List.mem_map.mp hw
  have hsignal := h e he
  cases e with
  | externalRateLimit resource retryAfter => exact L.signal resource retryAfter
  | _ => cases hsignal

theorem inAir_of_none {c : GateCall} (h : c.reply? = none) : L.inAir c = 0 := by
  simp [inAir, h]

theorem inAir_of_some {c : GateCall} (h : c.reply?.isSome) : L.inAir c = L.sending := by
  simp [inAir, h]

theorem Stands.of_append {events others : List Event} (h : L.Stands (events ++ others)) :
    L.Stands events ∧ L.Stands others := by
  obtain hsturdy | hcalm := h
  · exact ⟨.inl hsturdy, .inl hsturdy⟩
  · exact ⟨.inr fun e he ↦ hcalm e (List.mem_append_left _ he),
      .inr fun e he ↦ hcalm e (List.mem_append_right _ he)⟩

/-- A move that reports nothing and changes no weight balances. -/
theorem balances_of_silent {before after : ℤ} (hevents : site.events = d.events)
    (h : before = after) : L.Balances d site [] before after :=
  ⟨[], hevents, fun _ ↦ by simpa using h⟩

/-- A law that speaks of a crash stands it. -/
theorem Stands.sturdy {events : List Event} {resource message : String} (h : L.Stands events)
    (hcrash : Event.failure resource (.crashed message) ∈ events) : L.sturdy = true := by
  obtain hsturdy | hcalm := h
  · exact hsturdy
  · exact absurd (hcalm _ hcrash) (by simp [Event.isFailureOf, DeliveryFailure.kind])

/-- The counters say what all events weigh. -/
theorem reading_metrics (d : Depot) : L.reading d.metrics = L.total d.events := by
  rw [Depot.metrics]
  induction d.events with
  | nil => exact L.reading_empty
  | cons e events ih =>
    rw [List.reverse_cons, Metrics.ofEvents_concat, L.reading_record, ih, total_cons, add_comm]

/-! ### Calls -/

/-- A call that goes on balances. -/
theorem total_of_going {name : String} {c c' : GateCall} {said : List Event}
    (h : c.Says name (.going c') said) : L.total said + L.inAir c = L.inAir c' := by
  cases h with
  | waits hbefore hafter => simp [inAir_of_none hbefore, inAir_of_none hafter]
  | attempts hbefore hafter =>
    simp [L.attempt, inAir_of_none hbefore, inAir_of_some hafter]
  | retries hbefore hafter hsignals =>
    simp [L.retry, total_signals hsignals, inAir_of_none hafter, inAir_of_some hbefore]

/-- A call that ends delivered weighs what a delivery weighs that succeeds. -/
theorem total_of_delivered {name : String} {c : GateCall} {n : ℕ} {r : SendResult}
    {said : List Event} (h : c.Says name (.done (.ok (.delivered n r))) said) :
    L.total said + L.inAir c = L.ended none := by
  cases h with
  | delivers hbefore => simp [L.success, inAir_of_some hbefore]

/-- A call that ends otherwise weighs, with its failure and a dead letter, what a delivery weighs
that fails. -/
theorem total_of_failed {name : String} {c : GateCall} {answer : GateCall.End}
    {failure : DeliveryFailure} {said others : List Event} (resource : String)
    (h : c.Says name (.done answer) said)
    (hfailure : GateCall.failure? answer = some failure) (hstands : L.Stands others)
    (hmem : Event.failure resource failure ∈ others) :
    L.total said + L.event (.failure resource failure) + L.filing + L.inAir c =
      L.ended (some failure) := by
  cases h with
  | delivers => cases hfailure
  | @fails n r _ hbefore hsignals =>
    obtain rfl := Option.some.inj hfailure
    have hweight : L.event (.failure resource (.ofResult r)) + L.filing =
        L.ended (some (.ofResult r)) - L.sending := L.sendFailed resource _ _
    rw [total_signals hsignals, inAir_of_some hbefore]
    linarith
  | @rejected rejection hbefore =>
    obtain rfl := Option.some.inj hfailure
    have hweight := L.rejected resource name rejection
    rw [inAir_of_none hbefore]
    simp only [total_cons, total_nil]
    linarith
  | @crashes reason _ hsignals =>
    obtain rfl := Option.some.inj hfailure
    -- whether an attempt was under way is not reported; it has no weight if the law stands this
    obtain ⟨hsending, hweight⟩ := L.crash (hstands.sturdy hmem)
    have hair : L.inAir c = 0 := by
      rw [inAir, hsending, ite_self]
    rw [total_signals hsignals, hair]
    linarith [hweight resource reason.message]

/-! ### Deliveries -/

theorem failure?_of_setback {payload : Json} {answer : GateCall.End} {failure : DeliveryFailure}
    {kept : Option Json} {attempts : ℕ} (h : Setback payload answer failure kept attempts) :
    GateCall.failure? answer = some failure := by
  cases h <;> rfl

/-- What stands in the way to a gate is early, or a crash. -/
theorem early_or_crashed_of_bars {n : Notification} {target : Target} {failure : DeliveryFailure}
    {payload : Option Json} (h : d.Bars n target failure payload) :
    failure.isEarly = true ∨ ∃ message, failure = .crashed message := by
  cases h with
  | formatCrashed | noGate => exact .inr ⟨_, rfl⟩
  | noFormatter | contextMismatch | formatFailed | emptyPayload | noSender => exact .inl rfl

theorem weight_of_early {failure : DeliveryFailure} {events : List Event} (resource : String)
    (h : failure.isEarly = true ∨ ∃ message, failure = .crashed message)
    (hstands : L.Stands events) (hmem : Event.failure resource failure ∈ events) :
    L.event (.failure resource failure) + L.filing = L.ended (some failure) := by
  obtain hearly | ⟨message, rfl⟩ := h
  · exact L.early resource failure hearly
  · exact (L.crash (hstands.sturdy hmem)).2 resource message

/-- A move of a delivery balances. -/
theorem balances_of_advance {t : Delivery} {turn : Turn Delivery DeliveryReport}
    (hobserved : d.observed = true) (h : t.Advance d turn site) :
    L.Balances d site [] (L.delivery (.going t)) (L.delivery turn) := by
  cases h with
  | @barred failure payload hcall hbars =>
    obtain ⟨answer, letters, -, hfail⟩ := t.fail_hears d payload failure 0
    rw [hfail]
    refine ⟨_, Depot.hears_of_observed hobserved _, fun hstands ↦ ?_⟩
    have hweight := weight_of_early t.target.resource
      (early_or_crashed_of_bars hbars) hstands (by simp)
    simp only [total_cons, total_nil, delivery, hcall, L.filed, Option.map_none, Option.getD_none,
      List.map_nil, List.sum_nil]
    linarith
  | opens hcall =>
    refine balances_of_silent rfl ?_
    simp [delivery, hcall, inAir, GateCall.reply?]
  | calls hcall hmove =>
    obtain ⟨-, -, -, name, said, hsays, hevents⟩ := Depot.call_says hobserved hmove
    refine ⟨said, hevents, fun _ ↦ ?_⟩
    simpa [delivery, hcall] using total_of_going hsays
  | delivers hcall hmove =>
    obtain ⟨-, -, -, name, said, hsays, hevents⟩ := Depot.call_says hobserved hmove
    refine ⟨said, hevents, fun _ ↦ ?_⟩
    simpa [delivery, hcall] using total_of_delivered hsays
  | @fails c answer failure payload attempts after hcall hmove hsetback =>
    obtain ⟨hobserved', -, -, name, said, hsays, hevents⟩ := Depot.call_says hobserved hmove
    obtain ⟨stored, letters, -, hfail⟩ := t.fail_hears after payload failure attempts
    rw [hfail]
    refine ⟨DeadLetter.filed t.target.resource stored ::
      .failure t.target.resource failure :: said, ?_, fun hstands ↦ ?_⟩
    · change after.hears _ = _
      rw [Depot.hears_of_observed hobserved', hevents]
      rfl
    · have hweight := total_of_failed t.target.resource hsays
        (failure?_of_setback hsetback) hstands (by simp)
      simp only [total_cons, delivery, hcall, L.filed, Option.map_some, Option.getD_some,
        List.map_nil, List.sum_nil]
      linarith

/-! ### The laws -/

/-- Who is turned away by a gate fails for that. -/
def rejections (rejection : Rejection) : Law where
  event e := (if e.isRejection rejection then 1 else 0) -
    if e.isFailureOf rejection.failure.kind then 1 else 0
  reading m := m.rejections rejection - m.reason rejection.failure.kind
  sending := 0
  ended _ := 0
  filing := 0
  sturdy := true
  reading_empty := by cases rejection <;> rfl
  reading_record m e := by
    rw [Metrics.reason_record, Metrics.rejections_record]
    push_cast
    ring
  attempt _ := by cases rejection <;> rfl
  retry _ _ := by cases rejection <;> rfl
  signal _ _ := by cases rejection <;> rfl
  success _ := by cases rejection <;> rfl
  filed _ answer := by cases rejection <;> cases answer <;> rfl
  rejected _ _ other := by cases rejection <;> cases other <;> rfl
  sendFailed _ _ _ := by cases rejection <;> rfl
  early _ failure h := by cases rejection <;> cases failure <;> first | rfl | cases h
  crash _ := ⟨rfl, fun _ _ ↦ by cases rejection <;> rfl⟩

/-- A delivery that ends, and a claim that is answered for, is a success or a failure. -/
def outcomes : Law where
  event
    | .success _ | .failure .. => 1
    | _ => 0
  reading m := m.successes + m.failures
  sending := 0
  ended _ := 1
  filing := 0
  sturdy := true
  reading_empty := rfl
  reading_record m e := by cases e <;> simp [Metrics.record] <;> ring
  attempt _ := rfl
  retry _ _ := rfl
  signal _ _ := rfl
  success _ := rfl
  filed _ answer := by cases answer <;> rfl
  rejected _ _ other := by cases other <;> rfl
  sendFailed _ _ _ := rfl
  early _ _ _ := rfl
  crash _ := ⟨rfl, fun _ _ ↦ rfl⟩

/-- A failure leaves a dead letter, or one that could not be stored, or is that of a replay. -/
def letters : Law where
  event
    | .failure .. => 1
    | .deadLetterCreated _ | .deadLetterHandlerFailed _ => -1
    | _ => 0
  reading m := m.failures - m.deadLettersCreated - m.deadLetterHandlerFailures
  sending := 0
  ended _ := 0
  filing := -1
  sturdy := true
  reading_empty := rfl
  reading_record m e := by cases e <;> simp [Metrics.record] <;> ring
  attempt _ := rfl
  retry _ _ := rfl
  signal _ _ := rfl
  success _ := rfl
  filed _ answer := by cases answer <;> rfl
  rejected _ _ other := by cases other <;> rfl
  sendFailed _ _ _ := rfl
  early _ _ _ := rfl
  crash _ := ⟨rfl, fun _ _ ↦ rfl⟩

/-- An attempt that does not crash succeeds, is followed by another one, or fails the call. -/
def attempts : Law where
  event
    | .attempt _ => 1
    | .success _ | .retry .. | .failure _ (.sendFailed ..) => -1
    | _ => 0
  reading m := m.attempts - m.successes - m.retries - m.reason "send_failed"
  sending := 1
  ended _ := 0
  filing := 0
  sturdy := false
  reading_empty := rfl
  reading_record m e := by
    rw [Metrics.reason_record]
    cases e with
    | failure resource failure =>
      cases failure <;> simp [Metrics.record, Event.isFailureOf, DeliveryFailure.kind]
      ring
    | _ => simp [Metrics.record, Event.isFailureOf] <;> ring
  attempt _ := rfl
  retry _ _ := rfl
  signal _ _ := rfl
  success _ := rfl
  filed _ answer := by cases answer <;> rfl
  rejected _ _ other := by cases other <;> rfl
  sendFailed _ _ _ := rfl
  early _ failure h := by cases failure <;> first | rfl | cases h
  crash h := by cases h

/-- A crash that is reported is that of a delivery or of a replay. -/
def crashes : Law where
  event e := if e.isFailureOf "panicked" then 1 else 0
  reading m := m.reason "panicked"
  sending := 0
  ended
    | some (.crashed _) => 1
    | _ => 0
  filing := 0
  sturdy := true
  reading_empty := rfl
  reading_record m e := by
    rw [Metrics.reason_record]
    push_cast
    rfl
  attempt _ := rfl
  retry _ _ := rfl
  signal _ _ := rfl
  success _ := rfl
  filed _ answer := by cases answer <;> rfl
  rejected _ _ other := by cases other <;> rfl
  sendFailed _ _ _ := rfl
  early _ failure _ := by cases failure <;> rfl
  crash _ := ⟨rfl, fun _ _ ↦ rfl⟩

end Law

end Courier

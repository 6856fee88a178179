import Courier.Proofs.Delivery.Account
import Courier.Proofs.Delivery.Round

/-!
# What was sent, and what the report says of it

`Stride.sends` are the calls to the sender that begin in a move of a delivery, and `sendsOf` those
of all its moves. `Sending` says of a delivery under way that its call has counted them, and that
each of them brings the payload that was rendered in its first move to the address of its target;
`Documents` says what the report and the dead letter say of them in the end. They are the cases of
`Reckoning`, which every move of a delivery keeps (`Reckoning.advance`); what the moves of each
delivery keep holds in a whole round (`Round.each_of_reaches`).

The report and the dead letter tell what was sent and what was rendered unless the delivery crashed.
Then they say that nothing was, whatever was (`Round.reports_tell_sends`,
`Round.crash_hides_sends`).
-/

set_option autoImplicit false
set_option relaxedAutoImplicit false

namespace Courier

/-! ### Attempts of a call that has ended -/

/-- The outcome of a call has the number of attempts that the call has made. -/
theorem GateCall.attempts_of_step {f : Feedback} {m : Moment} {c : GateCall} {s scene : GateScene}
    {outcome : GateOutcome} (h : c.step f m s = some (.done (.ok outcome), scene)) :
    outcome.attempts = c.attempts := by
  have hadvance := advance_of_step h
  simp only at hadvance
  generalize hturn : (Turn.done (.ok outcome) : Turn GateCall GateCall.End) = turn at hadvance
  cases hadvance with
  | full hphase | limited hphase | skipped hphase | delivers hphase | fails hphase =>
    obtain rfl := Except.ok.inj (Turn.done.inj hturn)
    simp only [attempts, hphase]
    rfl
  | overflows | crashes => cases Turn.done.inj hturn
  | queues | enters | polls | admitted | retries | resumes => cases hturn

/-! ### Sends of a delivery -/

namespace Stride

/-- The calls to the sender of a platform that begin in the move, the latest first. -/
def sends (x : Stride) (platform : String) : List Sent :=
  (x.after.sentTo platform).take
    ((x.after.sentTo platform).length - (x.before.sentTo platform).length)

theorem sends_eq {x : Stride} {platform : String} {sent : List Sent}
    (h : x.after.sentTo platform = sent ++ x.before.sentTo platform) :
    x.sends platform = sent := by
  rw [sends, h, List.length_append, Nat.add_sub_cancel, List.take_left]

end Stride

/-- The calls to the sender of a platform that begin in some moves, the latest first. -/
def sendsOf (strides : List Stride) (platform : String) : List Sent :=
  strides.flatMap fun x ↦ x.sends platform

theorem sendsOf_cons {x : Stride} {platform : String} {sent : List Sent}
    (h : x.after.sentTo platform = sent ++ x.before.sentTo platform) (strides : List Stride) :
    sendsOf (x :: strides) platform = sent ++ sendsOf strides platform := by
  rw [sendsOf, List.flatMap_cons, Stride.sends_eq h]
  rfl

theorem sendsOf_silent {x : Stride} {platform : String}
    (h : x.after.sentTo platform = x.before.sentTo platform) (strides : List Stride) :
    sendsOf (x :: strides) platform = sendsOf strides platform := by
  have hnone : x.after.sentTo platform = [] ++ x.before.sentTo platform := h
  rw [sendsOf_cons hnone, List.nil_append]

/-- The failure is a crash. -/
def DeliveryFailure.isCrash : DeliveryFailure → Bool
  | .crashed _ => true
  | _ => false

/-- The delivery crashed. -/
def DeliveryReport.isCrash (r : DeliveryReport) : Bool := r.failure.any DeliveryFailure.isCrash

/-! ### What is rendered -/

namespace Depot

variable {d : Depot} {n : Notification} {target : Target} {failure : DeliveryFailure}
  {payload : Option Json}

theorem Renders.unique {platform : String} {p q : Json} (h : d.Renders n platform p)
    (h' : d.Renders n platform q) : p = q := by
  obtain ⟨formatter, hformatter, hformat, -⟩ := h
  obtain ⟨formatter', hformatter', hformat', -⟩ := h'
  obtain rfl := Option.some.inj (hformatter.symm.trans hformatter')
  exact Rendering.payload.inj (hformat.symm.trans hformat')

/-- What bars the way to the gate comes with the payload, if there is one and nothing crashed. -/
theorem Bars.payload_iff (h : d.Bars n target failure payload) (p : Json) :
    payload = some p ↔
      failure.isCrash = false ∧ d.Renders n target.platform p := by
  -- a formatter that renders nothing
  have hnothing : ∀ {formatter : Formatter},
      d.formatters.resolve target.platform n.typeId = some formatter →
      (∀ q, formatter.format d.types n = .payload q → isEmptyPayload q = true) →
      ¬ d.Renders n target.platform p := by
    rintro formatter hformatter hempty ⟨formatter', hformatter', hformat, hfull⟩
    obtain rfl := Option.some.inj (hformatter.symm.trans hformatter')
    rw [hempty p hformat] at hfull
    cases hfull
  cases h with
  | noFormatter hformatter =>
    refine ⟨fun hp ↦ (by cases hp), ?_⟩
    rintro ⟨-, formatter, hsome, -⟩
    cases hformatter.symm.trans hsome
  | contextMismatch hformatter hformat | formatFailed hformatter hformat =>
    refine ⟨fun hp ↦ (by cases hp), fun hp ↦ absurd hp.2 (hnothing hformatter fun q hq ↦ ?_)⟩
    cases hformat.symm.trans hq
  | formatCrashed | noGate =>
    exact ⟨fun hp ↦ (by cases hp), fun hp ↦ (by cases hp.1)⟩
  | emptyPayload hformatter hformat hempty =>
    refine ⟨fun hp ↦ (by cases hp), fun hp ↦ absurd hp.2 (hnothing hformatter fun q hq ↦ ?_)⟩
    obtain rfl := Rendering.payload.inj (hformat.symm.trans hq)
    exact hempty
  | noSender hrenders =>
    refine ⟨fun hp ↦ ⟨rfl, ?_⟩, fun hp ↦ congrArg some (hrenders.unique hp.2)⟩
    exact Option.some.inj hp ▸ hrenders

end Depot

/-- The answer of a gate comes with the payload of the call, unless the call crashed. -/
theorem Setback.payload_iff {rendered : Json} {answer : GateCall.End}
    {failure : DeliveryFailure} {payload : Option Json} {attempts : ℕ}
    (h : Setback rendered answer failure payload attempts) (p : Json) :
    payload = some p ↔ failure.isCrash = false ∧ rendered = p := by
  cases h with
  | rejected rejection => cases rejection <;> simp [Rejection.failure, DeliveryFailure.isCrash]
  | failed | crashed => simp [DeliveryFailure.isCrash]

/-! ### What is reckoned of a delivery -/

/-- The depot in which the first of some moves was made. -/
def startOf (strides : List Stride) : Option Depot := strides.getLast?.map Stride.before

theorem startOf_cons (x : Stride) (strides : List Stride) :
    startOf (x :: strides) = some ((startOf strides).getD x.before) := by
  rw [startOf, startOf, List.getLast?_cons]
  cases strides.getLast? <;> rfl

/-- What was sent in some moves is the payload that was rendered when a delivery started, to the
address of its target. -/
def Brings (n : Notification) (start : Depot) (target : Target) (strides : List Stride) : Prop :=
  ∀ r ∈ sendsOf strides target.platform,
    r.url = target.url ∧ start.Renders n target.platform r.payload

/-- A call has counted what was sent in some moves, and brings what was rendered in the first of
them. None of them has called the store. -/
structure Sending (n : Notification) (target : Target) (c : GateCall) (start : Depot)
    (strides : List Stride) : Prop where
  begins : startOf strides = some start
  url : c.url = target.url
  rendered : start.Renders n target.platform c.payload
  brings : Brings n start target strides
  count : c.attempts = (sendsOf strides target.platform).length
  letters : ∀ x ∈ strides, x.after.letters = x.before.letters

/-- What a report and its dead letter say of the moves of a delivery. The report has the number of
sends; if the delivery failed, the store was called with a dead letter that has the same number, and
has the payload if one was rendered. But if the delivery crashed, there are no sends and no payload
in them. -/
structure Documents (n : Notification) (start : Depot) (strides : List Stride)
    (report : DeliveryReport) : Prop where
  begins : startOf strides = some start
  brings : Brings n start report.target strides
  attempts : report.attempts =
    if report.isCrash then 0 else (sendsOf strides report.target.platform).length
  filed : ∀ failure, report.failure = some failure → ∃ m payload stored,
    StoresOnce strides (.new m n report.target payload failure.message report.attempts) stored ∧
    report.deadLetter = stored.toOption ∧
    ∀ p, payload = some p ↔
      report.isCrash = false ∧ start.Renders n report.target.platform p

/-- How far a delivery has come, by its moves, the last one first. -/
inductive Reckoning (n : Notification) (target : Target) :
    List Stride → Turn Delivery DeliveryReport → Prop where
  | waiting : Reckoning n target [] (.going { notification := n, target })
  | calling {c : GateCall} {start : Depot} {strides : List Stride}
      (hsending : Sending n target c start strides) :
      Reckoning n target strides (.going { notification := n, target, call := some c })
  | ended {start : Depot} {strides : List Stride} {report : DeliveryReport}
      (htarget : report.target = target) (hdocuments : Documents n start strides report) :
      Reckoning n target strides (.done report)

/-! ### What a move does -/

section Moves

variable {n : Notification} {target : Target} {start : Depot} {strides earlier : List Stride}
  {place : ℕ} {t : Delivery} {turn : Turn Delivery DeliveryReport} {d site : Depot}

/-- A move of a call that goes on sends what the call brings, if it sends anything. -/
theorem Delivery.sends_of_call {resource platform : String} {c c' : GateCall}
    (h : d.call resource platform c = some (.going c', site)) :
    ∃ sent, site.sentTo platform = sent ++ d.sentTo platform ∧
      c'.attempts = sent.length + c.attempts ∧
      ∀ r ∈ sent, r.url = c.url ∧ r.payload = c.payload := by
  obtain ⟨-, -, ⟨next, heq, -, hcount, hsent⟩ | ⟨next, heq, -, hcount, hsent⟩ |
    ⟨answer, heq, -⟩⟩ := sentTo_of_call h
  · obtain rfl := Turn.going.inj heq
    exact ⟨[], hsent platform, by simpa using hcount, by simp⟩
  · obtain rfl := Turn.going.inj heq
    refine ⟨[⟨d.clock.now, c.url, c.payload⟩], ?_, by rw [hcount, Nat.add_comm]; rfl, by simp⟩
    rw [hsent, if_pos rfl]
    rfl
  · cases heq

/-- A move in which a call ends sends nothing, and its outcome has the attempts of the call. -/
theorem Delivery.sends_of_answer {resource platform : String} {c : GateCall}
    {answer : GateCall.End} (h : d.call resource platform c = some (.done answer, site)) :
    site.sentTo platform = d.sentTo platform ∧ site.letters = d.letters ∧
      ∀ outcome, answer = .ok outcome → outcome.attempts = c.attempts := by
  obtain ⟨-, hletters, ⟨next, heq, -⟩ | ⟨next, heq, -⟩ | ⟨result, -, hsent, -⟩⟩ := sentTo_of_call h
  · cases heq
  · cases heq
  · refine ⟨hsent platform, hletters, ?_⟩
    rintro outcome rfl
    obtain ⟨gate, sender, scene, -, -, hstep, -⟩ := Depot.call_eq h
    exact GateCall.attempts_of_step hstep

/-- A move in which the sender is not called brings nothing more. -/
theorem Brings.cons (h : Brings n start target strides) {x : Stride}
    (hsent : x.after.sentTo target.platform = x.before.sentTo target.platform) :
    Brings n start target (x :: strides) := by
  rwa [Brings, sendsOf_silent hsent]

/-- A delivery that ends without success documents what was sent before. It may have called its gate
in the same move. -/
theorem Brings.fail (h : Brings t.notification start t.target earlier)
    (hbegins : (startOf earlier).getD d = start)
    (hearlier : ∀ x ∈ earlier, x.after.letters = x.before.letters)
    (hsent : site.sentTo t.target.platform = d.sentTo t.target.platform)
    (hletters : site.letters = d.letters)
    {failure : DeliveryFailure} {payload : Option Json} {attempts : ℕ}
    (hattempts : attempts =
      if failure.isCrash then 0 else (sendsOf earlier t.target.platform).length)
    (hpayload : ∀ p, payload = some p ↔
      failure.isCrash = false ∧ start.Renders t.notification t.target.platform p) :
    Reckoning t.notification t.target
      (⟨place, d, (t.fail site payload failure attempts).2⟩ :: earlier)
      (t.fail site payload failure attempts).1 := by
  obtain ⟨answer, letters, hstore, hfail⟩ := t.fail_hears site payload failure attempts
  rw [hfail]
  rw [hletters] at hstore
  refine .ended rfl ⟨(startOf_cons ..).trans (congrArg some hbegins), h.cons hsent, ?_,
    fun failure' hfailure ↦ ?_⟩
  · rw [sendsOf_silent hsent]
    exact hattempts
  · obtain rfl := Option.some.inj hfailure
    exact ⟨site.moment, payload, answer, ⟨_, _, rfl, hstore, hearlier⟩, rfl, hpayload⟩

/-- A call that goes on counts what it sends. -/
theorem Sending.call {c c' : GateCall} (h : Sending n target c start strides)
    (hmove : d.call target.resource target.platform c = some (.going c', site)) :
    Sending n target c' start (⟨place, d, site⟩ :: strides) := by
  obtain ⟨hurl, hpayload⟩ := Delivery.parcel_of_call hmove
  obtain ⟨-, hletters, -⟩ := Delivery.sentTo_of_call hmove
  obtain ⟨sent, hsent, hcount, hbrought⟩ := Delivery.sends_of_call hmove
  have hsends := sendsOf_cons (x := ⟨place, d, site⟩) hsent strides
  exact
    { begins := by rw [startOf_cons, h.begins]; rfl
      url := hurl.trans h.url
      rendered := hpayload ▸ h.rendered
      brings := by
        intro r hr
        rw [hsends] at hr
        obtain hr | hr := List.mem_append.mp hr
        · obtain ⟨hto, hwhat⟩ := hbrought r hr
          exact ⟨hto.trans h.url, hwhat ▸ h.rendered⟩
        · exact h.brings r hr
      count := by rw [hcount, hsends, List.length_append, h.count]
      letters := List.forall_mem_cons.mpr ⟨hletters, h.letters⟩ }

/-- What is kept of the payload of a call is what was rendered, unless the call crashed. -/
theorem Sending.payload_iff {c : GateCall} (h : Sending n target c start strides)
    {answer : GateCall.End} {failure : DeliveryFailure} {payload : Option Json} {attempts : ℕ}
    (hsetback : Setback c.payload answer failure payload attempts) (p : Json) :
    payload = some p ↔ failure.isCrash = false ∧ start.Renders n target.platform p := by
  rw [hsetback.payload_iff]
  refine and_congr_right fun _ ↦ ⟨fun heq ↦ heq ▸ h.rendered, fun hp ↦ h.rendered.unique hp⟩

/-- A delivery whose gate has not delivered documents what its call has counted. -/
theorem Sending.fail {c : GateCall} (h : Sending n target c start strides)
    {answer : GateCall.End} {failure : DeliveryFailure} {payload : Option Json} {attempts : ℕ}
    (hmove : d.call target.resource target.platform c = some (.done answer, site))
    (hsetback : Setback c.payload answer failure payload attempts) :
    let next := Delivery.fail { notification := n, target, call := some c } site payload failure
      attempts
    Reckoning n target (⟨place, d, next.2⟩ :: strides) next.1 := by
  obtain ⟨hsent, hletters, houtcome⟩ := Delivery.sends_of_answer hmove
  have hattempts : attempts = if failure.isCrash then 0 else c.attempts := by
    cases hsetback with
    | rejected rejection =>
      rw [← houtcome _ rfl]
      cases rejection <;> rfl
    | failed n r => exact houtcome _ rfl
    | crashed reason => rfl
  rw [h.count] at hattempts
  exact Brings.fail (t := { notification := n, target, call := some c })
    h.brings (by rw [h.begins]; rfl) h.letters hsent hletters hattempts (h.payload_iff hsetback)

/-- A move of a delivery is reckoned with. -/
theorem Reckoning.advance (h : Reckoning n target strides (.going t))
    (hadvance : t.Advance d turn site) (place : ℕ) :
    Reckoning n target (⟨place, d, site⟩ :: strides) turn := by
  generalize hgoing : (Turn.going t : Turn Delivery DeliveryReport) = before at h
  cases h with
  | waiting =>
    obtain rfl := Turn.going.inj hgoing
    have hnothing : ∀ start, Brings n start target [] := fun start r hr ↦ by cases hr
    cases hadvance with
    | barred hcall hbars =>
      exact Brings.fail (t := { notification := n, target }) (hnothing d) rfl (by simp)
        rfl rfl (by simp [sendsOf]) hbars.payload_iff
    | opens hcall hclears =>
      exact .calling
        { begins := startOf_cons ..
          url := rfl
          rendered := hclears.renders
          brings := (hnothing d).cons rfl
          count := by rw [sendsOf_silent rfl]; rfl
          letters := by simp }
    | calls hcall | delivers hcall | fails hcall => cases hcall
  | calling hsending =>
    obtain rfl := Turn.going.inj hgoing
    cases hadvance with
    | barred hcall | opens hcall => cases hcall
    | calls hcall hmove =>
      obtain rfl := Option.some.inj hcall
      exact .calling (hsending.call hmove)
    | delivers hcall hmove =>
      obtain rfl := Option.some.inj hcall
      obtain ⟨hsent, -, houtcome⟩ := Delivery.sends_of_answer hmove
      refine .ended rfl ⟨by rw [startOf_cons, hsending.begins]; rfl, hsending.brings.cons hsent, ?_,
        fun failure hfailure ↦ by cases hfailure⟩
      rw [sendsOf_silent hsent]
      exact (houtcome _ rfl).trans hsending.count
    | fails hcall hmove hsetback =>
      obtain rfl := Option.some.inj hcall
      exact hsending.fail hmove hsetback
  | ended => cases hgoing

/-- Of a delivery that has ended, report and dead letter say what was sent. -/
theorem Reckoning.documents {report : DeliveryReport}
    (h : Reckoning n target strides (.done report)) :
    report.target = target ∧ ∃ start, Documents n start strides report := by
  cases h with
  | ended htarget hdocuments => exact ⟨htarget, _, hdocuments⟩

end Moves

/-! ### Rounds -/

namespace Round

variable {n : Notification} {targets : List Target} {s s' : Round} {d : Depot}
  {P : Target → List Stride → Turn Delivery DeliveryReport → Prop}

/-- Some property holds of each delivery of a round that has begun, with its target and its
moves. -/
structure Each (P : Target → List Stride → Turn Delivery DeliveryReport → Prop)
    (targets : List Target) (s : Round) : Prop where
  begun : ∀ m, s.dispatch ≠ .going (.pending m)
  length : s.turns.length = targets.length
  each : ∀ (place : ℕ) (target : Target) (turn : Turn Delivery DeliveryReport),
    targets[place]? = some target → s.turns[place]? = some turn → P target (s.strides place) turn

/-- What the moves of a delivery keep is kept by a move of the round. -/
theorem Each.step (h : s.Each P targets)
    (hkeeps : ∀ {target strides t turn d site}, P target strides (.going t) →
      t.Advance d turn site → ∀ place, P target (⟨place, d, site⟩ :: strides) turn)
    (hmove : s.Move s') : s'.Each P targets := by
  cases hmove with
  | others hupholds => exact ⟨h.begun, h.length, h.each⟩
  | @own t place next site hgoing hstep =>
    obtain ⟨m, rfl, -⟩ | ⟨deliveries, t, turn, rfl, ht, hturn, rfl⟩ |
      ⟨deliveries, reports, rfl, rfl, rfl, hdone⟩ := Dispatch.stepOne_cases hstep
    · exact absurd hgoing (h.begun m)
    · have hturns : s.turns = deliveries := by rw [turns, hgoing]
      have hlength := h.length
      rw [hturns] at hlength
      refine ⟨fun m heq ↦ (by cases heq), (List.length_set ..).trans hlength,
        fun other target after htarget hafter ↦ ?_⟩
      rw [strides_own ht]
      change (deliveries.set place turn)[other]? = some after at hafter
      split_ifs with hsame
      · subst hsame
        obtain ⟨hlt, -⟩ := List.getElem?_eq_some_iff.mp ht
        rw [List.getElem?_set_self hlt] at hafter
        obtain rfl := Option.some.inj hafter
        exact hkeeps (h.each other target _ htarget (by rw [hturns, ht]))
          (Delivery.advance_of_step hturn) other
      · rw [List.getElem?_set_ne (Ne.symm hsame)] at hafter
        exact h.each other target after htarget (by rw [hturns, hafter])
    · have hreports := Dispatch.eq_map_of_done hstep
      have hnone : Dispatch.strides place (.delivering deliveries) s.depot s.depot = [] := by
        rw [Dispatch.strides]
        split
        · rename_i going hplace
          obtain ⟨report, heq⟩ := hdone _ (List.mem_of_getElem? hplace)
          cases heq
        · rfl
      have hturns : turns ⟨.done reports, s.depot, s.log⟩ = s.turns := by
        rw [turns, turns, hgoing, hreports]
      rw [hnone, List.nil_append]
      exact ⟨fun m heq ↦ (by cases heq), by rw [hturns]; exact h.length,
        by rw [hturns]; exact h.each⟩

/-- What holds of each delivery before it has moved, and is kept by its moves, holds of each in
every round. -/
theorem each_of_reaches (hwaiting : ∀ target, P target [] (.going { notification := n, target }))
    (hkeeps : ∀ {target strides t turn d site}, P target strides (.going t) →
      t.Advance d turn site → ∀ place, P target (⟨place, d, site⟩ :: strides) turn)
    {place : ℕ} {t : Turn Dispatch (List DeliveryReport)} {site : Depot}
    (hbegin : Dispatch.stepOne place (.pending n) d = some (t, site))
    (hreaches : Reaches ⟨t, site, []⟩ s) :
    s.Each P (d.routing.resolve n.typeId n.category) := by
  obtain ⟨rfl, rfl⟩ := Prod.mk.inj (Option.some.inj hbegin)
  induction hreaches with
  | refl =>
    refine ⟨fun m heq ↦ (by cases heq), List.length_map ..,
      fun place target turn htarget hturn ↦ ?_⟩
    change (Dispatch.start n d)[place]? = some turn at hturn
    rw [Dispatch.start, List.getElem?_map, htarget] at hturn
    obtain rfl := Option.some.inj hturn
    exact hwaiting target
  | tail _ hmove ih => exact ih.step hkeeps hmove

/-- A round that has ended has a report for each target, and the property holds of it. -/
theorem Each.reports (h : s.Each P targets) {reports : List DeliveryReport}
    (hdone : s.dispatch = .done reports) {place : ℕ} {report : DeliveryReport}
    (hreport : reports[place]? = some report) :
    ∃ target, targets[place]? = some target ∧ P target (s.strides place) (.done report) := by
  have hturns : s.turns = reports.map .done := by rw [turns, hdone]
  obtain ⟨hlt, -⟩ := List.getElem?_eq_some_iff.mp hreport
  have hlength := h.length
  rw [hturns, List.length_map] at hlength
  have htarget := List.getElem?_eq_getElem (hlength ▸ hlt : place < targets.length)
  exact ⟨_, htarget, h.each place _ _ htarget (by rw [hturns, List.getElem?_map, hreport]; rfl)⟩

/-- In every round, whatever formatters and senders do and whatever others do to the depot
meanwhile, the report for each target tells what its delivery sent: the payload that was rendered
when the delivery started, to the address of the target, as often as the report says. If the
delivery failed, the store was called once with a dead letter that says the same, and that has the
payload if and only if one was rendered. But a delivery that crashed is reported as if it had not
got anywhere: no attempts and no payload, whatever was sent before the crash. So report and dead
letter tell the truth about the attempts if and only if the delivery did not crash after a send. -/
theorem reports_tell_sends {choice : ℕ} {t : Turn Dispatch (List DeliveryReport)} {site : Depot}
    (hbegin : Dispatch.stepOne choice (.pending n) d = some (t, site))
    (hreaches : Reaches ⟨t, site, []⟩ s) {reports : List DeliveryReport}
    (hdone : s.dispatch = .done reports) {place : ℕ} {report : DeliveryReport}
    (hreport : reports[place]? = some report) :
    (d.routing.resolve n.typeId n.category)[place]? = some report.target ∧
      (∃ start, Documents n start (s.strides place) report) ∧
      (report.attempts = (sendsOf (s.strides place) report.target.platform).length ↔
        (report.isCrash → sendsOf (s.strides place) report.target.platform = [])) := by
  have heach := each_of_reaches (P := Reckoning n) (fun _ ↦ .waiting) Reckoning.advance hbegin
    hreaches
  obtain ⟨target, htarget, hreckoning⟩ := heach.reports hdone hreport
  obtain ⟨rfl, start, hdocuments⟩ := hreckoning.documents
  refine ⟨htarget, ⟨start, hdocuments⟩, ?_⟩
  rw [hdocuments.attempts]
  by_cases hcrash : report.isCrash = true
  · rw [if_pos hcrash, eq_comm, List.length_eq_zero_iff]
    exact ⟨fun hnone _ ↦ hnone, fun hnone ↦ hnone hcrash⟩
  · rw [if_neg hcrash]
    exact ⟨fun _ h ↦ absurd h hcrash, fun _ ↦ rfl⟩

/-! ### A run -/

/-- A sender that is busy at its first call, with what it does at all others. -/
def hesitant (reply : Reply) : Sender where
  plan := Sender.script [⟨.zero, .result (.ofStatus 503 "busy" none)⟩, ⟨.zero, reply⟩]

/-- A depot with two targets whose senders are busy at first. Then one of them takes the payload,
and the other one crashes. -/
def breaking : Depot where
  formatters :=
    ⟨["slack", "chat"].map fun platform ↦
      (⟨platform, none⟩, { format := fun _ n ↦ .payload (.string n.typeId) })⟩
  senders :=
    ⟨[("chat", hesitant (.crash (.raised "boom"))), ("slack", hesitant (.result (.ok 200)))]⟩
  gates := { defaults := { retry := .constant .zero } }
  routing :=
    { fallback :=
      [⟨"slack", "alerts", some "https://slack", true⟩, ⟨"chat", "ci", some "https://chat", true⟩] }

/-- The notification that is dispatched. -/
def breakingNews : Notification := ⟨"build.failed", "ci", ⟨0, 0⟩, .null, []⟩

/-- A round in which both deliveries end. -/
theorem breaking_reaches :
    ∃ t site s, Dispatch.stepOne 0 (.pending breakingNews) breaking = some (t, site) ∧
      Reaches ⟨t, site, []⟩ s ∧
      s.dispatch = .done [⟨⟨"slack", "alerts", "https://slack"⟩, 2, none, none⟩,
        ⟨⟨"chat", "ci", "https://chat"⟩, 0, some (.crashed "boom"), some ⟨Clock.idBase + 10⟩⟩] ∧
      (sendsOf (s.strides 1) "chat").length = 2 ∧
      (s.depot.letters.get? ⟨Clock.idBase + 10⟩).map (fun e ↦ (e.attempts, e.payload)) =
        some (0, none) := by
  have hrun : ((Dispatch.stepOne 0 (.pending breakingNews) breaking).bind fun next ↦
      (play [0, 0, 0, 0, 0, 0, 1, 1, 1, 1, 1, 1, 0] ⟨next.1, next.2, []⟩).map fun s ↦
        (s.dispatch, (sendsOf (s.strides 1) "chat").length,
          (s.depot.letters.get? ⟨Clock.idBase + 10⟩).map fun e ↦ (e.attempts, e.payload))) =
      some (.done [⟨⟨"slack", "alerts", "https://slack"⟩, 2, none, none⟩,
        ⟨⟨"chat", "ci", "https://chat"⟩, 0, some (.crashed "boom"), some ⟨Clock.idBase + 10⟩⟩], 2,
        some (0, none)) := by rfl
  obtain ⟨⟨t, site⟩, hbegin, hrun⟩ := Option.bind_eq_some_iff.mp hrun
  obtain ⟨s, hs, heq⟩ := Option.map_eq_some_iff.mp hrun
  obtain ⟨hdone, heq⟩ := Prod.mk.inj heq
  obtain ⟨hsends, hletter⟩ := Prod.mk.inj heq
  exact ⟨t, site, s, hbegin, reaches_of_play hs, hdone, hsends, hletter⟩

/-- What was sent twice and delivered is reported so. -/
theorem reports_tell_sends_busy :
    ∃ t site s reports report,
      Dispatch.stepOne 0 (.pending breakingNews) breaking = some (t, site) ∧
      Reaches ⟨t, site, []⟩ s ∧ s.dispatch = .done reports ∧ reports[0]? = some report ∧
      report.failure = none ∧ report.attempts = 2 ∧
      (sendsOf (s.strides 0) report.target.platform).length = 2 := by
  obtain ⟨t, site, s, hbegin, hreaches, hdone, -, -⟩ := breaking_reaches
  have htold := (reports_tell_sends hbegin hreaches hdone (rfl : _[0]? = some _)).2.2
  exact ⟨t, site, s, _, _, hbegin, hreaches, hdone, rfl, rfl, rfl, (htold.mpr nofun).symm⟩

/-- A payload is rendered and sent twice before the sender crashes; report and dead letter say that
there were no attempts, and there is no payload in the dead letter. -/
theorem crash_hides_sends :
    ∃ t site s reports report entry,
      Dispatch.stepOne 0 (.pending breakingNews) breaking = some (t, site) ∧
      Reaches ⟨t, site, []⟩ s ∧ s.dispatch = .done reports ∧ reports[1]? = some report ∧
      breaking.Renders breakingNews report.target.platform (.string "build.failed") ∧
      (sendsOf (s.strides 1) report.target.platform).length = 2 ∧ report.attempts = 0 ∧
      report.deadLetter.bind s.depot.letters.get? = some entry ∧ entry.attempts = 0 ∧
      entry.payload = none := by
  obtain ⟨t, site, s, hbegin, hreaches, hdone, hsends, hletter⟩ := breaking_reaches
  obtain ⟨entry, hentry, heq⟩ := Option.map_eq_some_iff.mp hletter
  obtain ⟨hattempts, hpayload⟩ := Prod.mk.inj heq
  exact ⟨t, site, s, _, _, entry, hbegin, hreaches, hdone, rfl, ⟨_, rfl, rfl, rfl⟩, hsends, rfl,
    hentry, hattempts, hpayload⟩

end Round

end Courier

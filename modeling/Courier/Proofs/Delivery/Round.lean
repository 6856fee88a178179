import Courier.Proofs.Delivery.Return

/-!
# Every target is accounted for

A round is one dispatch among all that others do to the depot meanwhile: its deliveries move in any
order, and between two of their moves others may change anything but what a delivery relies on
(`Round.Move`, `Round.Reaches`). The log keeps, for each move of a delivery, the depot before and
after it; so it shows which events that move reported and whether it called the store.

`Accounted` says how a target may end: what stood in the way to its gate or what its gate answered,
and which report, events and call to the store come of it. `Course` says the same of a delivery
under way and is the invariant of each target; `Round.accounts_for_every_target` joins them.
-/

set_option autoImplicit false
set_option relaxedAutoImplicit false

namespace Courier

/-! ### Moves of deliveries -/

/-- A move of one of the deliveries of a dispatch. -/
structure Stride where
  place : ℕ
  before : Depot
  after : Depot

namespace Stride

/-- The events reported in the move, the latest first. -/
def reported (x : Stride) : List Event :=
  x.after.events.take (x.after.events.length - x.before.events.length)

/-- The move neither calls the store nor says how the delivery ends. -/
structure Quiet (x : Stride) : Prop where
  letters : x.after.letters = x.before.letters
  reported : ∀ e ∈ x.reported, Event.isVerdict e = false

/-- The move ends a delivery without success: it calls the store once, with a new dead letter, and
reports the failure and what came of that call. -/
def Files (x : Stride) (n : Notification) (target : Target) (payload : Option Json)
    (failure : DeliveryFailure) (attempts : ℕ) (report : DeliveryReport) : Prop :=
  ∃ (m : Moment) (answer : Except StoreError EntryId),
    x.before.letters.store (.new m n target payload failure.message attempts) =
      (answer, x.after.letters) ∧
    report = ⟨target, attempts, some failure, answer.toOption⟩ ∧
    x.reported.filter Event.isVerdict =
      [DeadLetter.filed target.resource answer, .failure target.resource failure]

variable {x : Stride}

theorem reported_eq {events : List Event} (h : x.after.events = events ++ x.before.events) :
    x.reported = events := by
  rw [reported, h, List.length_append, Nat.add_sub_cancel, List.take_left]

theorem Quiet.filter_eq_nil (h : x.Quiet) : x.reported.filter Event.isVerdict = [] :=
  List.filter_eq_nil_iff.mpr fun e he ↦ by simp [h.reported e he]

end Stride

/-- The store was called once, in the last of some moves, with an entry, and gave an answer. -/
def StoresOnce (strides : List Stride) (e : DeadLetter) (answer : Except StoreError EntryId) :
    Prop :=
  ∃ last earlier, strides = last :: earlier ∧
    last.before.letters.store e = (answer, last.after.letters) ∧
    ∀ x ∈ earlier, x.after.letters = x.before.letters

/-- What a delivery reports of its end, by its report. -/
def DeliveryReport.verdict (r : DeliveryReport) : List Event :=
  match r.failure, r.deadLetter with
  | none, _ => []
  | some failure, some _ =>
    [.deadLetterCreated r.target.resource, .failure r.target.resource failure]
  | some failure, none =>
    [.deadLetterHandlerFailed r.target.resource, .failure r.target.resource failure]

/-! ### The course of a delivery -/

/-- A call brings the payload that was rendered in the first of some moves, all of which are quiet,
to the address of its target. -/
structure Opened (n : Notification) (target : Target) (c : GateCall) (strides : List Stride) :
    Prop where
  url : c.url = target.url
  cleared : ∃ first gates, strides.getLast? = some first ∧
    first.before.Clears n target c.payload gates
  quiet : ∀ x ∈ strides, Stride.Quiet x

/-- How a delivery may end, by its moves, the last one first, and what its gate answered, if it came
to its gate. -/
inductive Accounted (n : Notification) (target : Target) :
    List Stride → Option GateCall.End → DeliveryReport → Prop where
  /-- Something stood in the way to the gate. -/
  | barred {x : Stride} {failure : DeliveryFailure} {payload : Option Json}
      {report : DeliveryReport} (hbars : x.before.Bars n target failure payload)
      (hfiles : x.Files n target payload failure 0 report) :
      Accounted n target [x] none report
  /-- The gate has delivered. -/
  | delivered {x : Stride} {earlier : List Stride} {c : GateCall} {attempts : ℕ} {r : SendResult}
      (hopened : Opened n target c earlier)
      (hanswer : x.before.call target.resource target.platform c =
        some (.done (.ok (.delivered attempts r)), x.after))
      (hquiet : x.Quiet) :
      Accounted n target (x :: earlier) (some (.ok (.delivered attempts r)))
        ⟨target, attempts, none, none⟩
  /-- The gate has not delivered. -/
  | failed {x : Stride} {earlier : List Stride} {c : GateCall} {answer : GateCall.End}
      {site : Depot} {failure : DeliveryFailure} {payload : Option Json} {attempts : ℕ}
      {report : DeliveryReport} (hopened : Opened n target c earlier)
      (hanswer : x.before.call target.resource target.platform c = some (.done answer, site))
      (hsetback : Setback c.payload answer failure payload attempts)
      (hfiles : x.Files n target payload failure attempts report) :
      Accounted n target (x :: earlier) (some answer) report

/-- How far a delivery may have come, by its moves, the last one first. -/
inductive Course (n : Notification) (target : Target) :
    List Stride → Turn Delivery DeliveryReport → Prop where
  | waiting : Course n target [] (.going { notification := n, target })
  | calling {c : GateCall} {strides : List Stride} (hopened : Opened n target c strides) :
      Course n target strides (.going { notification := n, target, call := some c })
  | ended {answer : Option GateCall.End} {report : DeliveryReport} {strides : List Stride}
      (h : Accounted n target strides answer report) : Course n target strides (.done report)

namespace Accounted

variable {n : Notification} {target : Target} {strides : List Stride}
  {answer : Option GateCall.End} {report : DeliveryReport}

theorem target_eq (h : Accounted n target strides answer report) : report.target = target := by
  cases h with
  | barred hbars hfiles =>
    obtain ⟨m, stored, -, rfl, -⟩ := hfiles
    rfl
  | delivered => rfl
  | failed hopened hanswer hsetback hfiles =>
    obtain ⟨m, stored, -, rfl, -⟩ := hfiles
    rfl

/-- A delivery is a success if and only if its gate has delivered. -/
theorem failure_eq_none_iff (h : Accounted n target strides answer report) :
    report.failure = none ↔ ∃ attempts r, answer = some (.ok (.delivered attempts r)) := by
  cases h with
  | barred hbars hfiles =>
    obtain ⟨m, stored, -, rfl, -⟩ := hfiles
    simp
  | delivered => simp
  | failed hopened hanswer hsetback hfiles =>
    obtain ⟨m, stored, -, rfl, -⟩ := hfiles
    cases hsetback <;> simp

theorem verdict_of_files {x : Stride} {payload : Option Json} {failure : DeliveryFailure}
    {attempts : ℕ} (h : x.Files n target payload failure attempts report) :
    x.reported.filter Event.isVerdict = report.verdict := by
  obtain ⟨m, stored, -, rfl, hreported⟩ := h
  rw [hreported]
  cases stored <;> rfl

/-- The moves of a delivery report one failure if it fails, none otherwise, and with the failure
whether there is a dead letter. -/
theorem verdict (h : Accounted n target strides answer report) :
    (strides.flatMap Stride.reported).filter Event.isVerdict = report.verdict := by
  have hearlier : ∀ {c : GateCall} {earlier : List Stride}, Opened n target c earlier →
      (earlier.flatMap Stride.reported).filter Event.isVerdict = [] := by
    intro c earlier hopened
    refine List.filter_eq_nil_iff.mpr fun e he ↦ ?_
    obtain ⟨x, hx, he⟩ := List.mem_flatMap.mp he
    simp [(hopened.quiet x hx).reported e he]
  cases h with
  | barred hbars hfiles =>
    rw [List.flatMap_singleton]
    exact verdict_of_files hfiles
  | delivered hopened hanswer hquiet =>
    rw [List.flatMap_cons, List.filter_append, hearlier hopened, hquiet.filter_eq_nil]
    rfl
  | failed hopened hanswer hsetback hfiles =>
    rw [List.flatMap_cons, List.filter_append, hearlier hopened, List.append_nil]
    exact verdict_of_files hfiles

/-- The moves of a delivery call the store once if it fails, and not otherwise. -/
theorem stored (h : Accounted n target strides answer report) :
    (report.failure = none ∧ report.deadLetter = none ∧
      ∀ x ∈ strides, x.after.letters = x.before.letters) ∨
    ∃ failure m payload stored, report.failure = some failure ∧
      StoresOnce strides
        (.new m n target payload failure.message report.attempts) stored ∧
      report.deadLetter = stored.toOption := by
  cases h with
  | barred hbars hfiles =>
    obtain ⟨m, stored, hstore, rfl, -⟩ := hfiles
    exact .inr ⟨_, m, _, stored, rfl, ⟨_, [], rfl, hstore, by simp⟩, rfl⟩
  | delivered hopened hanswer hquiet =>
    refine .inl ⟨rfl, rfl, fun x hx ↦ ?_⟩
    obtain rfl | hx := List.mem_cons.mp hx
    · exact hquiet.letters
    · exact (hopened.quiet x hx).letters
  | failed hopened hanswer hsetback hfiles =>
    obtain ⟨m, stored, hstore, rfl, -⟩ := hfiles
    exact .inr ⟨_, m, _, stored, rfl,
      ⟨_, _, rfl, hstore, fun x hx ↦ (hopened.quiet x hx).letters⟩, rfl⟩

end Accounted

/-! ### What a move does to the course -/

namespace Delivery

variable {t : Delivery} {d d' : Depot} {place : ℕ}

theorem quiet_of_call {resource platform : String} {c : GateCall}
    {turn : Turn GateCall GateCall.End} (hobserved : d.observed = true)
    (h : d.call resource platform c = some (turn, d')) : (Stride.mk place d d').Quiet := by
  obtain ⟨-, hletters, -, name, said, hsays, hevents⟩ := Depot.call_says hobserved h
  refine ⟨hletters, ?_⟩
  rw [Stride.reported_eq hevents]
  exact hsays.not_isVerdict

/-- A delivery that ends without success files a dead letter. It may have called its gate before in
the same move. -/
theorem files_of_fail {said : List Event} (hobserved : d'.observed = true)
    (hletters : d'.letters = d.letters) (hevents : d'.events = said ++ d.events)
    (hsaid : ∀ e ∈ said, Event.isVerdict e = false) (place : ℕ) (payload : Option Json)
    (failure : DeliveryFailure) (attempts : ℕ) :
    ∃ report, (t.fail d' payload failure attempts).1 = .done report ∧
      (Stride.mk place d (t.fail d' payload failure attempts).2).Files t.notification t.target
        payload failure attempts report := by
  obtain ⟨answer, letters, hstore, hfail⟩ := t.fail_hears d' payload failure attempts
  rw [hfail]
  rw [hletters] at hstore
  refine ⟨_, rfl, d'.moment, answer, hstore, rfl, ?_⟩
  have hreported : d'.hears
      [DeadLetter.filed t.target.resource answer, .failure t.target.resource failure] =
      (DeadLetter.filed t.target.resource answer :: .failure t.target.resource failure :: said) ++
        d.events := by
    rw [Depot.hears_of_observed hobserved, hevents]
    rfl
  rw [Stride.reported_eq hreported]
  have hnone : said.filter Event.isVerdict = [] :=
    List.filter_eq_nil_iff.mpr fun e he ↦ by simp [hsaid e he]
  cases answer <;> simp [DeadLetter.filed, List.filter_cons, Event.isVerdict, hnone]

/-- A call keeps what it brings and where to. -/
theorem parcel_of_call {resource platform : String} {c c' : GateCall}
    (h : d.call resource platform c = some (.going c', d')) :
    c'.url = c.url ∧ c'.payload = c.payload := by
  obtain ⟨gate, sender, scene, -, -, hstep, -⟩ := Depot.call_hears h
  have hadvance := GateCall.advance_of_step hstep
  simp only at hadvance
  generalize hturn : (Turn.going c' : Turn GateCall GateCall.End) = turn at hadvance
  cases hadvance with
  | queues | enters | polls | admitted | retries | resumes =>
    obtain rfl := Turn.going.inj hturn
    exact ⟨rfl, rfl⟩
  | full | limited | overflows | skipped | delivers | fails | crashes => cases hturn

end Delivery

/-- The move of a delivery keeps its course. -/
theorem Course.advance {n : Notification} {target : Target} {strides : List Stride}
    {t : Delivery} {turn : Turn Delivery DeliveryReport} {d site : Depot}
    (h : Course n target strides (.going t)) (hobserved : d.observed = true)
    (hadvance : t.Advance d turn site) (place : ℕ) :
    Course n target (⟨place, d, site⟩ :: strides) turn := by
  generalize hgoing : (Turn.going t : Turn Delivery DeliveryReport) = before at h
  cases h with
  | waiting =>
    obtain rfl := Turn.going.inj hgoing
    cases hadvance with
    | barred hcall hbars =>
      obtain ⟨report, hreport, hfiles⟩ := Delivery.files_of_fail hobserved rfl
        (List.nil_append d.events).symm (by simp) place _ _ 0
      rw [hreport]
      exact .ended (.barred hbars hfiles)
    | opens hcall hclears =>
      refine .calling ⟨rfl, ⟨_, _, rfl, hclears⟩, fun x hx ↦ ?_⟩
      obtain rfl := List.mem_singleton.mp hx
      refine ⟨rfl, ?_⟩
      rw [Stride.reported_eq (List.nil_append d.events).symm]
      simp
    | calls hcall | delivers hcall | fails hcall => cases hcall
  | calling hopened =>
    obtain rfl := Turn.going.inj hgoing
    cases hadvance with
    | barred hcall | opens hcall => cases hcall
    | calls hcall hmove =>
      obtain rfl := Option.some.inj hcall
      obtain ⟨hurl, hpayload⟩ := Delivery.parcel_of_call hmove
      obtain ⟨first, gates, hfirst, hclears⟩ := hopened.cleared
      refine .calling ⟨hurl.trans hopened.url, ⟨first, gates, ?_, hpayload ▸ hclears⟩,
        fun x hx ↦ ?_⟩
      · rw [List.getLast?_cons, hfirst]
        rfl
      · obtain rfl | hx := List.mem_cons.mp hx
        · exact Delivery.quiet_of_call hobserved hmove
        · exact hopened.quiet x hx
    | delivers hcall hmove =>
      obtain rfl := Option.some.inj hcall
      exact .ended (.delivered hopened hmove (Delivery.quiet_of_call hobserved hmove))
    | fails hcall hmove hsetback =>
      obtain rfl := Option.some.inj hcall
      obtain ⟨hobserved', hletters, -, name, said, hsays, hevents⟩ :=
        Depot.call_says hobserved hmove
      obtain ⟨report, hreport, hfiles⟩ := Delivery.files_of_fail hobserved' hletters hevents
        hsays.not_isVerdict place _ _ _
      rw [hreport]
      exact .ended (.failed hopened hmove hsetback hfiles)
  | ended => cases hgoing

theorem Course.accounted {n : Notification} {target : Target} {strides : List Stride}
    {report : DeliveryReport} (h : Course n target strides (.done report)) :
    ∃ answer, Accounted n target strides answer report := by
  cases h with
  | ended h => exact ⟨_, h⟩

/-! ### Rounds -/

/-- A dispatch among others. -/
structure Round where
  dispatch : Turn Dispatch (List DeliveryReport)
  depot : Depot
  /-- The moves of its deliveries, the last one first. -/
  log : List Stride := []

/-- The move of a delivery that is made when a dispatch moves. -/
def Dispatch.strides (place : ℕ) (t : Dispatch) (before after : Depot) : List Stride :=
  match t with
  | .pending _ => []
  | .delivering deliveries =>
    match deliveries[place]? with
    | some (.going _) => [⟨place, before, after⟩]
    | _ => []

namespace Round

/-- The moves of the delivery at a place, the last one first. -/
def strides (s : Round) (place : ℕ) : List Stride := s.log.filter fun x ↦ x.place = place

/-- One move of a round. -/
inductive Move (s : Round) : Round → Prop where
  /-- The dispatch moves, or its delivery at a place. -/
  | own {t : Dispatch} {place : ℕ} {next : Turn Dispatch (List DeliveryReport)} {site : Depot}
      (hgoing : s.dispatch = .going t) (hstep : t.stepOne place s.depot = some (next, site)) :
      Move s ⟨next, site, t.strides place s.depot site ++ s.log⟩
  /-- Others do something to the depot. -/
  | others {site : Depot} (hupholds : s.depot.Upholds site) : Move s { s with depot := site }

/-- Any number of moves. -/
abbrev Reaches : Round → Round → Prop := Relation.ReflTransGen Move

/-- The deliveries, under way or ended. -/
def turns (s : Round) : List (Turn Delivery DeliveryReport) :=
  match s.dispatch with
  | .going (.pending _) => []
  | .going (.delivering deliveries) => deliveries
  | .done reports => reports.map .done

/-- A round whose deliveries have begun: each of them has come as far as its course says. -/
structure Kept (n : Notification) (targets : List Target) (s : Round) : Prop where
  begun : ∀ m, s.dispatch ≠ .going (.pending m)
  observed : s.depot.observed = true
  orderly : s.depot.gates.Orderly
  ready : Dispatch.AllReady s.turns s.depot
  length : s.turns.length = targets.length
  courses : ∀ (place : ℕ) (target : Target) (turn : Turn Delivery DeliveryReport),
    targets[place]? = some target → s.turns[place]? = some turn →
      Course n target (s.strides place) turn

variable {n : Notification} {targets : List Target} {s s' : Round} {d : Depot}

theorem kept_start (n : Notification) (hobserved : d.observed = true)
    (horderly : d.gates.Orderly) :
    Kept n (d.routing.resolve n.typeId n.category)
      ⟨.going (.delivering (Dispatch.start n d)), d, []⟩ where
  begun m h := by cases h
  observed := hobserved
  orderly := horderly
  ready := Dispatch.allReady_start n d
  length := List.length_map ..
  courses place target turn htarget hturn := by
    change (Dispatch.start n d)[place]? = some turn at hturn
    rw [Dispatch.start, List.getElem?_map, htarget] at hturn
    obtain rfl := Option.some.inj hturn
    exact .waiting

theorem strides_own {t : Delivery} {deliveries : List (Turn Delivery DeliveryReport)}
    {place : ℕ} {site : Depot} {next : Turn Dispatch (List DeliveryReport)}
    (ht : deliveries[place]? = some (.going t)) (other : ℕ) :
    strides ⟨next, site, Dispatch.strides place (.delivering deliveries) s.depot site ++ s.log⟩
        other =
      if other = place then ⟨place, s.depot, site⟩ :: s.strides place else s.strides other := by
  simp only [strides, Dispatch.strides, ht, List.singleton_append]
  split_ifs with hsame
  · subst hsame
    rw [List.filter_cons_of_pos (by simp)]
  · rw [List.filter_cons_of_neg (by simpa using Ne.symm hsame)]

/-- The move of one delivery keeps the courses of all. -/
theorem Kept.moved {t : Delivery} {deliveries : List (Turn Delivery DeliveryReport)} {place : ℕ}
    {turn : Turn Delivery DeliveryReport} {site : Depot} (h : s.Kept n targets)
    (hgoing : s.dispatch = .going (.delivering deliveries))
    (ht : deliveries[place]? = some (.going t)) (hadvance : t.Advance s.depot turn site) :
    Kept n targets ⟨.going (.delivering (deliveries.set place turn)), site,
      Dispatch.strides place (.delivering deliveries) s.depot site ++ s.log⟩ := by
  have hupholds := Delivery.upholds_of_advance h.orderly hadvance
  have hturns : s.turns = deliveries := by rw [turns, hgoing]
  have hlength := h.length
  have hready := h.ready
  rw [hturns] at hlength hready
  exact
    { begun := fun m heq ↦ by cases heq
      observed := hupholds.observed.trans h.observed
      orderly := hupholds.gates.orderly h.orderly
      ready := hready.set h.orderly ht hadvance
      length := (List.length_set ..).trans hlength
      courses := fun other target after htarget hafter ↦ by
        rw [strides_own ht]
        change (deliveries.set place turn)[other]? = some after at hafter
        split_ifs with hsame
        · subst hsame
          obtain ⟨hlt, -⟩ := List.getElem?_eq_some_iff.mp ht
          rw [List.getElem?_set_self hlt] at hafter
          obtain rfl := Option.some.inj hafter
          exact (h.courses other target _ htarget (by rw [hturns, ht])).advance h.observed
            hadvance other
        · -- another delivery has neither moved nor has a move of it been added to the log
          rw [List.getElem?_set_ne (Ne.symm hsame)] at hafter
          exact h.courses other target after htarget (by rw [hturns, hafter]) }

theorem Kept.step (h : s.Kept n targets) (hmove : s.Move s') : s'.Kept n targets := by
  cases hmove with
  | others hupholds =>
    exact
      { h with
        observed := hupholds.observed.trans h.observed
        orderly := hupholds.gates.orderly h.orderly
        ready := h.ready.upholds hupholds }
  | @own t place next site hgoing hstep =>
    obtain ⟨m, rfl, -⟩ | ⟨deliveries, delivery, turn, rfl, ht, hturn, rfl⟩ |
      ⟨deliveries, reports, rfl, rfl, rfl, hdone⟩ := Dispatch.stepOne_cases hstep
    · exact absurd hgoing (h.begun m)
    · exact h.moved hgoing ht (Delivery.advance_of_step hturn)
    · have hreports := Dispatch.eq_map_of_done hstep
      have hnone : Dispatch.strides place (.delivering deliveries) s.depot s.depot = [] := by
        rw [Dispatch.strides]
        split
        · rename_i going hplace
          obtain ⟨report, heq⟩ := hdone _ (List.mem_of_getElem? hplace)
          cases heq
        · rfl
      have hturns : turns ⟨.done reports, s.depot, s.log⟩ = s.turns := by
        rw [turns, turns, hgoing, hreports]
      rw [hnone, List.nil_append]
      exact
        { begun := fun m heq ↦ by cases heq
          observed := h.observed
          orderly := h.orderly
          ready := by rw [hturns]; exact h.ready
          length := by rw [hturns]; exact h.length
          courses := by rw [hturns]; exact h.courses }

theorem Kept.reaches (h : s.Kept n targets) (hreaches : Reaches s s') : s'.Kept n targets := by
  induction hreaches with
  | refl => exact h
  | tail _ hmove ih => exact ih.step hmove

theorem Kept.returns (h : s.Kept n targets) : Dispatch.Returns s.dispatch s.depot := by
  have hready := h.ready
  cases hdispatch : s.dispatch with
  | done reports => exact .ended reports s.depot
  | going t =>
    cases t with
    | pending m => exact absurd hdispatch (h.begun m)
    | delivering deliveries =>
      rw [turns, hdispatch] at hready
      exact Dispatch.returns_of_delivering hready h.orderly

/-- A dispatch accounts for every target. Whatever others do to the depot meanwhile, however
formatters, senders and the store behave, and in whatever order its deliveries move, a dispatch
returns. It returns one report for each target that it had found when it began, in their order. The
report at each place is accounted for by the moves of that delivery: it has no failure if and only
if the gate has delivered; these moves have reported the failure once if there is one and never
otherwise, with the fate of the dead letter; and they have called the store once, with the dead
letter of this failure, if there is one, and never otherwise. -/
theorem accounts_for_every_target {place : ℕ} {t : Turn Dispatch (List DeliveryReport)}
    {site : Depot} (hobserved : d.observed = true) (horderly : d.gates.Orderly)
    (hbegin : Dispatch.stepOne place (.pending n) d = some (t, site))
    (hreaches : Reaches ⟨t, site, []⟩ s) :
    Dispatch.Returns s.dispatch s.depot ∧
    ∀ reports, s.dispatch = .done reports →
      reports.map DeliveryReport.target = d.routing.resolve n.typeId n.category ∧
      ∀ (place : ℕ) (report : DeliveryReport), reports[place]? = some report →
        (∃ answer, Accounted n report.target (s.strides place) answer report ∧
          (report.failure = none ↔ ∃ attempts r, answer = some (.ok (.delivered attempts r)))) ∧
        ((s.strides place).flatMap Stride.reported).filter Event.isVerdict = report.verdict ∧
        ((report.failure = none ∧ report.deadLetter = none ∧
            ∀ x ∈ s.strides place, x.after.letters = x.before.letters) ∨
          ∃ failure m payload stored, report.failure = some failure ∧
            StoresOnce (s.strides place)
              (.new m n report.target payload failure.message report.attempts) stored ∧
            report.deadLetter = stored.toOption) := by
  obtain ⟨rfl, rfl⟩ := Prod.mk.inj (Option.some.inj hbegin)
  have h := (kept_start n hobserved horderly).reaches hreaches
  refine ⟨h.returns, fun reports hreports ↦ ?_⟩
  have hturns : s.turns = reports.map .done := by rw [turns, hreports]
  have hcourse : ∀ (place : ℕ) (target : Target) (report : DeliveryReport),
      (d.routing.resolve n.typeId n.category)[place]? = some target →
        reports[place]? = some report →
        ∃ answer, Accounted n target (s.strides place) answer report := by
    intro place target report htarget hreport
    exact (h.courses place target (.done report) htarget
      (by rw [hturns, List.getElem?_map, hreport]; rfl)).accounted
  have hlength : reports.length = (d.routing.resolve n.typeId n.category).length := by
    rw [← h.length, hturns, List.length_map]
  have htargets : reports.map DeliveryReport.target = d.routing.resolve n.typeId n.category := by
    refine List.ext_getElem (by rwa [List.length_map]) fun place hlt hlt' ↦ ?_
    rw [List.length_map] at hlt
    obtain ⟨answer, haccounted⟩ := hcourse place _ _ (List.getElem?_eq_getElem hlt')
      (List.getElem?_eq_getElem hlt)
    rw [List.getElem_map, haccounted.target_eq]
  refine ⟨htargets, fun place report hreport ↦ ?_⟩
  have htarget : (d.routing.resolve n.typeId n.category)[place]? = some report.target := by
    rw [← htargets, List.getElem?_map, hreport]
    rfl
  obtain ⟨answer, haccounted⟩ := hcourse place _ report htarget hreport
  exact ⟨⟨answer, haccounted, haccounted.failure_eq_none_iff⟩, haccounted.verdict,
    haccounted.stored⟩

/-! ### A run -/

/-- A dispatch makes some moves, each with the delivery at a place; none if it cannot. -/
def play : List ℕ → Round → Option Round
  | [], s => some s
  | place :: script, s =>
    match s.dispatch with
    | .done _ => none
    | .going t =>
      match t.stepOne place s.depot with
      | none => none
      | some (next, site) => play script ⟨next, site, t.strides place s.depot site ++ s.log⟩

theorem reaches_of_play {script : List ℕ} (h : play script s = some s') : Reaches s s' := by
  induction script generalizing s with
  | nil =>
    obtain rfl := Option.some.inj h
    exact .refl
  | cons place rest ih =>
    rw [play] at h
    split at h
    · cases h
    · rename_i t hgoing
      split at h
      · cases h
      · rename_i next site hstep
        exact .head (.own hgoing hstep) (ih h)

/-- A depot with a target that has formatter and sender and one that has neither, whose store turns
the first dead letter down. -/
def lopsided : Depot where
  formatters := ⟨[(⟨"slack", none⟩, { format := fun _ n ↦ .payload (.string n.typeId) })]⟩
  senders := ⟨[("slack", .log)]⟩
  gates := { defaults := {} }
  routing :=
    { fallback :=
      [⟨"slack", "alerts", some "https://hooks.slack/alerts", true⟩,
        ⟨"pager", "duty", some "https://pager/duty", true⟩] }
  letters := { faults := { store := [true] } }

/-- The second delivery fails before the first one has begun, and leaves no dead letter; the reports
are in the order of the targets. -/
theorem accounts_for_every_target_lopsided :
    lopsided.observed = true ∧ lopsided.gates.Orderly ∧
      ∃ t site s reports,
        Dispatch.stepOne 0 (.pending ⟨"build.failed", "ci", ⟨0, 0⟩, .null, []⟩) lopsided =
          some (t, site) ∧
        Reaches ⟨t, site, []⟩ s ∧ s.dispatch = .done reports ∧
        reports.map DeliveryReport.failure = [none, some .noFormatter] ∧
        reports.map (fun r ↦ r.target.platform) = ["slack", "pager"] ∧
        ((s.strides 1).flatMap Stride.reported).filter Event.isVerdict =
          [.deadLetterHandlerFailed "pager:duty", .failure "pager:duty" .noFormatter] := by
  have horderly : lopsided.gates.Orderly := fun resource g h ↦ by cases h
  have hrun : ((Dispatch.stepOne 0
      (.pending ⟨"build.failed", "ci", ⟨0, 0⟩, .null, []⟩) lopsided).bind fun next ↦
        (play [1, 0, 0, 0, 0, 0] ⟨next.1, next.2, []⟩).map Round.dispatch) =
      some (.done [⟨⟨"slack", "alerts", "https://hooks.slack/alerts"⟩, 1, none, none⟩,
        ⟨⟨"pager", "duty", "https://pager/duty"⟩, 0, some .noFormatter, none⟩]) := by rfl
  obtain ⟨⟨t, site⟩, hbegin, hrun⟩ := Option.bind_eq_some_iff.mp hrun
  obtain ⟨s, hs, hreports⟩ := Option.map_eq_some_iff.mp hrun
  have hreaches := reaches_of_play hs
  obtain ⟨-, h⟩ := accounts_for_every_target rfl horderly hbegin hreaches
  obtain ⟨htargets, haccounted⟩ := h _ hreports
  refine ⟨rfl, horderly, t, site, s, _, hbegin, hreaches, hreports, rfl, ?_, ?_⟩
  · exact (List.map_map ..).symm.trans (congrArg (List.map Target.platform) htargets)
  · exact (haccounted 1 _ rfl).2.1

end Round

end Courier

import Courier.Proofs.Counting
import Courier.Proofs.DeadLetter.Conduct
import Courier.Proofs.DeadLetter.Lifecycle
import Courier.Proofs.Delivery.Ledger

/-!
# The counters of a gateway balance

Any number of dispatches and of replays, of single entries and of all pending ones, are under way at
a gateway that counts its events; the store may fail at any call. Under every law what was reported
and done so far weighs what the tasks weigh that are under way or have ended (`Session.Booked`),
since each move of a task balances (`Actor.Engaged.step`).

When all tasks have ended, this says how the counters fit together:
`Session.counters_balance`.
-/

set_option autoImplicit false
set_option relaxedAutoImplicit false

namespace Courier

/-! ### What does not change -/

/-- The listener and the routes stay what they are. -/
structure Depot.Attends (d d' : Depot) : Prop where
  observed : d'.observed = d.observed
  routing : d'.routing = d.routing

theorem Depot.Attends.trans {d d' d'' : Depot} (h : d.Attends d') (h' : d'.Attends d'') :
    d.Attends d'' :=
  ⟨h'.observed.trans h.observed, h'.routing.trans h.routing⟩

theorem Depot.attends_of_call {d d' : Depot} {resource platform : String} {c : GateCall}
    {turn : Turn GateCall GateCall.End} (h : d.call resource platform c = some (turn, d')) :
    d.Attends d' := by
  obtain ⟨gate, sender, scene, -, -, -, rfl⟩ := call_hears h
  exact ⟨rfl, rfl⟩

theorem Delivery.attends_of_fail (t : Delivery) (d : Depot) (payload : Option Json)
    (failure : DeliveryFailure) (attempts : ℕ) :
    d.Attends (t.fail d payload failure attempts).2 := by
  obtain ⟨answer, letters, -, hfail⟩ := t.fail_hears d payload failure attempts
  rw [hfail]
  exact ⟨rfl, rfl⟩

theorem Delivery.attends_of_advance {t : Delivery} {d d' : Depot}
    {turn : Turn Delivery DeliveryReport} (h : t.Advance d turn d') : d.Attends d' := by
  cases h with
  | barred => exact t.attends_of_fail d _ _ _
  | opens => exact ⟨rfl, rfl⟩
  | calls hcall hmove | delivers hcall hmove => exact Depot.attends_of_call hmove
  | fails hcall hmove => exact (Depot.attends_of_call hmove).trans (t.attends_of_fail _ _ _ _)

theorem Dispatch.attends_of_stepOne {place : ℕ} {t : Dispatch} {d d' : Depot}
    {turn : Turn Dispatch (List DeliveryReport)} (h : t.stepOne place d = some (turn, d')) :
    d.Attends d' := by
  obtain ⟨n, -, -, rfl⟩ | ⟨deliveries, delivery, next, -, -, hnext, -⟩ |
    ⟨deliveries, reports, -, -, rfl, -⟩ := Dispatch.stepOne_cases h
  · exact ⟨rfl, rfl⟩
  · exact Delivery.attends_of_advance (Delivery.advance_of_step hnext)
  · exact ⟨rfl, rfl⟩

theorem Replay.attends_of_conclude (t : Replay) (d : Depot) (e : DeadLetter)
    (result : Except DeliveryFailure ℕ) : d.Attends (t.conclude d e result).2 := by
  cases result with
  | ok attempts => exact ⟨rfl, rfl⟩
  | error failure =>
    rw [conclude, Depot.report_hears]
    exact ⟨rfl, rfl⟩

theorem Replay.attends_of_advance {t : Replay} {d d' : Depot}
    {turn : Turn Replay (Except StoreError ReplayOutcome)} {deeds : List Deed}
    (h : t.Advance d turn d' deeds) : d.Attends d' := by
  cases h with
  | refused | opens | settles => exact ⟨rfl, rfl⟩
  | @misses _ _ letters =>
    have hclaimed : d.Attends { d.tick with letters } := ⟨rfl, rfl⟩
    exact hclaimed.trans (t.attends_of_conclude _ _ _)
  | calls hphase hmove => exact Depot.attends_of_call hmove
  | delivers hphase hmove | fails hphase hmove =>
    exact (Depot.attends_of_call hmove).trans (t.attends_of_conclude _ _ _)

/-! ### Tasks -/

namespace Law

variable {L : Law} {d site : Depot}

/-- What a dispatch weighs: the deliveries that it has begun. -/
def dispatch (L : Law) : Turn Dispatch (List DeliveryReport) → ℤ
  | .going (.pending _) => 0
  | .going (.delivering deliveries) => (deliveries.map L.delivery).sum
  | .done reports => (reports.map fun report ↦ L.ended report.failure).sum

/-- What a task weighs. -/
def task (L : Law) : Gateway.Task → ℤ
  | .dispatch t => L.dispatch (.going t)
  | .ended (.dispatched reports) => L.dispatch (.done reports)
  | task => (task.replay?.map fun t ↦ L.replay (.going t)).getD 0

theorem task_of_replays {task : Gateway.Task} (h : task.Replays) :
    L.task task = (task.replay?.map fun t ↦ L.replay (.going t)).getD 0 := by
  cases task with
  | ended result => cases result <;> first | rfl | exact h.elim
  | dispatch => exact h.elim
  | _ => rfl

theorem dispatch_start (n : Notification) (d : Depot) :
    L.dispatch (.going (.delivering (Dispatch.start n d))) = 0 := by
  refine List.sum_eq_zero fun w hw ↦ ?_
  obtain ⟨turn, hturn, rfl⟩ := List.mem_map.mp hw
  obtain ⟨target, -, rfl⟩ := List.mem_map.mp hturn
  rfl

theorem dispatch_done (reports : List DeliveryReport) :
    L.dispatch (.going (.delivering (reports.map .done))) = L.dispatch (.done reports) := by
  simp only [dispatch, List.map_map]
  rfl

/-- A move of a dispatch balances. -/
theorem balances_of_stepOne {place : ℕ} {t : Dispatch} {turn : Turn Dispatch (List DeliveryReport)}
    (hobserved : d.observed = true) (h : t.stepOne place d = some (turn, site)) :
    L.Balances d site [] (L.dispatch (.going t)) (L.dispatch turn) := by
  obtain ⟨n, rfl, rfl, rfl⟩ | ⟨deliveries, delivery, next, rfl, ht, hnext, rfl⟩ |
    ⟨deliveries, reports, rfl, rfl, rfl, -⟩ := Dispatch.stepOne_cases h
  · exact balances_of_silent rfl (dispatch_start n site).symm
  · have hadvance := Delivery.advance_of_step hnext
    obtain ⟨said, hevents, hbalanced⟩ := balances_of_advance (L := L) hobserved hadvance
    refine ⟨said, hevents, fun hstands ↦ ?_⟩
    have hweight := hbalanced hstands
    have hsum := sum_map_set ht L.delivery next
    simp only [dispatch, List.map_nil, List.sum_nil] at hweight ⊢
    linarith
  · refine balances_of_silent rfl ?_
    rw [Dispatch.eq_map_of_done h, dispatch_done]

end Law

/-- The targets of a dispatch that comes. -/
def Gateway.Task.targets (r : RoutingTable) : Gateway.Task → List Target
  | .dispatch (.pending n) => r.resolve n.typeId n.category
  | _ => []

/-- The reports of a dispatch that has ended. -/
def Gateway.Task.reports : Gateway.Task → List DeliveryReport
  | .ended (.dispatched reports) => reports
  | _ => []

theorem Gateway.Task.Replays.targets_eq {task : Gateway.Task} (h : task.Replays)
    (r : RoutingTable) : task.targets r = [] := by
  cases task with
  | dispatch => exact h.elim
  | _ => rfl

theorem Gateway.Task.Replays.reports_eq {task : Gateway.Task} (h : task.Replays) :
    task.reports = [] := by
  cases task with
  | ended result => cases result <;> first | rfl | exact h.elim
  | _ => rfl

theorem Gateway.Task.replay?_of_isDone {task : Gateway.Task} (h : task.isDone) :
    task.replay? = none := by
  cases task with
  | ended => rfl
  | _ => cases h

/-- Dispatches and replays come; what is noted is what replays do besides what they report. -/
def works : Watch Deed where
  comes task := (∃ n, task = .dispatch (.pending n)) ∨ (∃ id, task = .replay { id }) ∨
    task = .replayAll .begun
  note _ task g := (task.replay?.map fun t ↦ t.deeds g.depot).getD []

namespace Actor

/-- How far an actor may have come: one who dispatches, with as many deliveries as there are
targets, and then as many reports; or one who replays. -/
inductive Engaged (r : RoutingTable) : Actor → Prop where
  | waiting (n : Notification) : Engaged r ⟨.dispatch (.pending n), .dispatch (.pending n)⟩
  | delivering (n : Notification) {deliveries : List (Turn Delivery DeliveryReport)}
      (hlength : deliveries.length = (r.resolve n.typeId n.category).length) :
      Engaged r ⟨.dispatch (.pending n), .dispatch (.delivering deliveries)⟩
  | dispatched (n : Notification) {reports : List DeliveryReport}
      (hlength : reports.length = (r.resolve n.typeId n.category).length) :
      Engaged r ⟨.dispatch (.pending n), .ended (.dispatched reports)⟩
  | replaying {origin task : Gateway.Task} (horigin : origin.Replays) (htask : task.Replays) :
      Engaged r ⟨origin, task⟩

variable {a : Actor} {task : Gateway.Task} {g g' : Gateway} {choice : ℕ}

/-- What a move of an actor leaves: the depot alone has changed, the actor has come as far as it may
and the move balances. -/
def Advances (a : Actor) (task : Gateway.Task) (g g' : Gateway) (deeds : List Deed) : Prop :=
  ∃ site, g' = g.withDepot site ∧ g.depot.Attends site ∧
    Engaged g.depot.routing ⟨a.origin, task⟩ ∧
    ∀ L : Law, L.Balances g.depot site deeds (L.task a.task) (L.task task)

/-- The move of one who dispatches. -/
theorem advances_of_dispatch {n : Notification} {t : Dispatch}
    (hobserved : g.depot.observed = true)
    (hfits : Engaged g.depot.routing ⟨.dispatch (.pending n), .dispatch t⟩)
    (hstep : Gateway.Task.stepBy (Dispatch.stepOne choice) (.dispatch t) g = some (task, g')) :
    Advances ⟨.dispatch (.pending n), .dispatch t⟩ task g g' [] := by
  obtain ⟨⟨turn, site⟩, hturn, heq⟩ := Option.map_eq_some_iff.mp hstep
  obtain ⟨rfl, rfl⟩ := Prod.mk.inj heq
  refine ⟨site, rfl, Dispatch.attends_of_stepOne hturn, ?_, fun L ↦ ?_⟩
  · obtain ⟨m, rfl, rfl, -⟩ | ⟨deliveries, delivery, next, rfl, -, -, rfl⟩ |
      ⟨deliveries, reports, rfl, rfl, rfl, -⟩ := Dispatch.stepOne_cases hturn
    · cases hfits with
      | waiting => exact .delivering n (List.length_map ..)
      | replaying horigin => exact horigin.elim
    · cases hfits with
      | delivering _ hlength => exact .delivering n ((List.length_set ..).trans hlength)
      | replaying horigin => exact horigin.elim
    · cases hfits with
      | delivering _ hlength =>
        rw [Dispatch.eq_map_of_done hturn, List.length_map] at hlength
        exact .dispatched n hlength
      | replaying horigin => exact horigin.elim
  · have hbalanced := Law.balances_of_stepOne (L := L) hobserved hturn
    cases turn <;> exact hbalanced

/-- The move of one who replays: one of the replay under way, or one between two replays, which is
not reported. -/
theorem advances_of_replays {origin now : Gateway.Task} (hobserved : g.depot.observed = true)
    (horigin : origin.Replays) (hnow : now.Replays)
    (hstep : now.stepBy (Dispatch.stepOne choice) g = some (task, g')) :
    Advances ⟨origin, now⟩ task g g' (works.note choice now g) := by
  obtain ⟨htask, ⟨t, turn, site, ht, hturn, rfl, hnext⟩ | ⟨⟨letters, rfl, -⟩, hnone, hbegun⟩⟩ :=
    Gateway.Task.replay_cases hnow hstep
  · have hadvance := Replay.advance_of_step hturn
    refine ⟨site, rfl, Replay.attends_of_advance hadvance, .replaying horigin htask, fun L ↦ ?_⟩
    have hafter : L.task task = L.replay turn := by
      rw [Law.task_of_replays htask, hnext]
      cases turn <;> rfl
    rw [Law.task_of_replays hnow, ht, hafter]
    simpa [works, ht] using Law.balances_of_replay hobserved hadvance
  · refine ⟨_, rfl, ⟨rfl, rfl⟩, .replaying horigin htask, fun L ↦ ?_⟩
    have hafter : L.task task = 0 := by
      rw [Law.task_of_replays htask]
      cases ht : task.replay? with
      | none => rfl
      | some t => simp [Law.replay, hbegun t ht]
    have hnote : works.note choice now g = [] := by simp [works, hnone]
    rw [Law.task_of_replays hnow, hnone, hafter, hnote]
    exact Law.balances_of_silent rfl rfl

/-- Every move of an actor balances. -/
theorem Engaged.step (h : a.Engaged g.depot.routing) (hobserved : g.depot.observed = true)
    (hstep : a.task.stepBy (Dispatch.stepOne choice) g = some (task, g')) :
    a.Advances task g g' (works.note choice a.task g) := by
  cases h with
  | waiting n => exact advances_of_dispatch hobserved (.waiting n) hstep
  | delivering n hlength => exact advances_of_dispatch hobserved (.delivering n hlength) hstep
  | dispatched n => cases hstep
  | replaying horigin hnow => exact advances_of_replays hobserved horigin hnow hstep

/-- One who dispatched has ended with a report for each target; one who replayed has none. -/
theorem Engaged.length_reports {r : RoutingTable} (h : a.Engaged r) (hdone : a.task.isDone) :
    a.task.reports.length = (a.origin.targets r).length := by
  cases h with
  | dispatched n hlength => exact hlength
  | waiting | delivering => cases hdone
  | replaying horigin hnow =>
    rw [horigin.targets_eq, hnow.reports_eq, List.length_nil, List.length_nil]

/-- One who has ended weighs what the reports weigh. -/
theorem Engaged.task_eq {r : RoutingTable} (h : a.Engaged r) (hdone : a.task.isDone) (L : Law) :
    L.task a.task = (a.task.reports.map fun report ↦ L.ended report.failure).sum := by
  cases h with
  | dispatched => rfl
  | waiting | delivering => cases hdone
  | replaying horigin hnow =>
    rw [Law.task_of_replays hnow, hnow.reports_eq, Gateway.Task.replay?_of_isDone hdone]
    rfl

end Actor

/-! ### Sessions -/

namespace Session

variable (s : Session Deed)

/-- The targets of the dispatches that came. -/
def targets (r : RoutingTable) : List Target := s.actors.flatMap fun a ↦ a.origin.targets r

/-- The reports of the dispatches that have ended. -/
def reports : List DeliveryReport := s.actors.flatMap fun a ↦ a.task.reports

/-- How often a dead letter was claimed. -/
def claimsMade : ℕ := s.notes.countP fun n ↦ n.2 = .claimed

/-- The failures of the replays that did not deliver. -/
def misses : List DeliveryFailure := s.notes.filterMap fun n ↦ n.2.failure?

/-- Under every law what was reported and done weighs what the tasks weigh. -/
structure Booked (r : RoutingTable) (s : Session Deed) : Prop where
  quiet : s.gateway.pool.fresh = []
  observed : s.gateway.depot.observed = true
  routing : s.gateway.depot.routing = r
  engaged : ∀ a ∈ s.actors, a.Engaged r
  balanced : ∀ L : Law, L.Stands s.gateway.depot.events →
    L.total s.gateway.depot.events + (s.notes.map fun n ↦ L.deed n.2).sum =
      (s.actors.map fun a ↦ L.task a.task).sum

variable {s} {s' : Session Deed} {r : RoutingTable}

theorem booked_start {g : Gateway} (hobserved : g.depot.observed = true)
    (hevents : g.depot.events = []) (hquiet : g.pool.fresh = []) :
    Booked g.depot.routing ⟨g, [], []⟩ where
  quiet := hquiet
  observed := hobserved
  routing := rfl
  engaged := by simp
  balanced L _ := by simp [hevents]

/-- The move of an actor keeps the books. -/
theorem Booked.turn {place : ℕ} {a : Actor} {task : Gateway.Task} {g : Gateway}
    {deeds : List Deed} (h : s.Booked r) (hactor : s.actors[place]? = some a)
    (hadvances : a.Advances task s.gateway g deeds) :
    (s.turned place a task g deeds).Booked r := by
  obtain ⟨site, rfl, hattends, hengaged, hbalances⟩ := hadvances
  rw [h.routing] at hengaged
  exact
    { quiet := h.quiet
      observed := hattends.observed.trans h.observed
      routing := hattends.routing.trans h.routing
      engaged := fun b hb ↦ by
        obtain hb | rfl := List.mem_or_eq_of_mem_set hb
        · exact h.engaged b hb
        · exact hengaged
      balanced := fun L hstands ↦ by
        obtain ⟨said, hevents, hbalanced⟩ := hbalances L
        change L.Stands site.events at hstands
        rw [hevents] at hstands
        -- a law that stands all events stands those of this move and those before it
        obtain ⟨hsaid, hbefore⟩ := hstands.of_append
        have hmove := hbalanced hsaid
        have hbooks := h.balanced L hbefore
        have hsum := sum_map_set hactor (fun b ↦ L.task b.task) { a with task }
        change L.total site.events + ((deeds.map (Prod.mk place) ++ s.notes).map _).sum =
          ((s.actors.set place { a with task }).map _).sum
        rw [hevents, Law.total_append, List.map_append, List.sum_append, List.map_map]
        change _ + ((deeds.map L.deed).sum + _) = _
        simp only at hsum
        linarith }

/-- Every move keeps the books. -/
theorem Booked.step (h : s.Booked r) (hmove : Move works s s') : s'.Booked r := by
  cases hmove with
  | @turn place choice a task g hactor hstep =>
    have hengaged := h.engaged a (List.mem_of_getElem? hactor)
    rw [← h.routing] at hengaged
    exact h.turn hactor (hengaged.step h.observed hstep)
  | begin => rwa [begun_of_quiet h.quiet]
  | @come task hcomes =>
    have hnew : (Actor.new task).Engaged r ∧ ∀ L : Law, L.task task = 0 := by
      obtain ⟨n, rfl⟩ | ⟨id, rfl⟩ | rfl := hcomes
      · exact ⟨.waiting n, fun _ ↦ rfl⟩
      · exact ⟨.replaying trivial trivial, fun _ ↦ rfl⟩
      · exact ⟨.replaying trivial trivial, fun _ ↦ rfl⟩
    exact
      { h with
        engaged := fun b hb ↦ by
          obtain hb | hb := List.mem_append.mp hb
          · exact h.engaged b hb
          · obtain rfl := List.mem_singleton.mp hb
            exact hnew.1
        balanced := fun L hstands ↦ by
          have hbooks := h.balanced L hstands
          rw [List.map_append, List.sum_append, hbooks]
          simp [Actor.new, hnew.2 L] }
  | pass => exact { h with }

theorem Booked.reaches (h : s.Booked r) (hreaches : Reaches works s s') : s'.Booked r :=
  hreaches.keeps (fun _ _ ↦ Booked.step) h

/-! ### The counters -/

/-- The deeds that were noted: each claim is a debt, each replay that did not deliver pays one. -/
theorem sum_deeds (L : Law) (s : Session Deed) :
    (s.notes.map fun n ↦ L.deed n.2).sum =
      (s.misses.map fun failure ↦ L.deed (.missed failure)).sum - s.claimsMade * L.ended none := by
  unfold misses claimsMade
  induction s.notes with
  | nil => simp
  | cons note notes ih =>
    obtain ⟨place, deed⟩ := note
    rw [List.map_cons, List.sum_cons, ih]
    cases deed with
    | claimed =>
      rw [List.filterMap_cons_none rfl, List.countP_cons_of_pos rfl]
      simp only [Law.deed]
      push_cast
      ring
    | missed failure =>
      rw [List.filterMap_cons, List.countP_cons_of_neg (by simp)]
      simp only [Deed.failure?, List.map_cons, List.sum_cons]
      ring

/-- When all tasks have ended there is a report for every target. -/
theorem Booked.length_reports (h : s.Booked r) (hidle : ∀ a ∈ s.actors, a.task.isDone) :
    s.reports.length = (s.targets r).length := by
  rw [reports, targets, List.length_flatMap, List.length_flatMap]
  exact congrArg List.sum (List.map_congr_left fun a ha ↦
    (h.engaged a ha).length_reports (hidle a ha))

/-- When all tasks have ended, they weigh what the deliveries weigh that have ended. -/
theorem Booked.sum_tasks (h : s.Booked r) (hidle : ∀ a ∈ s.actors, a.task.isDone) (L : Law) :
    (s.actors.map fun a ↦ L.task a.task).sum =
      (s.reports.map fun report ↦ L.ended report.failure).sum := by
  rw [reports, List.map_flatMap, List.flatMap_def, List.sum_flatten, List.map_map]
  exact congrArg List.sum (List.map_congr_left fun a ha ↦
    (h.engaged a ha).task_eq (hidle a ha) L)

/-- When all tasks have ended, what the counters say, what the replays that failed owe and the
claims balance with what was reported to those who dispatched. -/
theorem Booked.settled (h : s.Booked r) (hidle : ∀ a ∈ s.actors, a.task.isDone) {L : Law}
    (hstands : L.Stands s.gateway.depot.events) :
    L.reading s.gateway.depot.metrics + (s.misses.map fun failure ↦ L.deed (.missed failure)).sum =
      (s.reports.map fun report ↦ L.ended report.failure).sum + s.claimsMade * L.ended none := by
  have hbooks := h.balanced L hstands
  rw [h.sum_tasks hidle, sum_deeds] at hbooks
  rw [Law.reading_metrics]
  linarith

/-- Under a law in which all ends weigh the same, the counters say how many ends there were and how
many of them left no dead letter. -/
theorem Booked.settled_evenly (h : s.Booked r) (hidle : ∀ a ∈ s.actors, a.task.isDone) {L : Law}
    {w : ℤ} (hended : ∀ failure, L.ended failure = w)
    (hstands : L.Stands s.gateway.depot.events) :
    L.reading s.gateway.depot.metrics + s.misses.length * L.filing =
      ((s.targets r).length + s.claimsMade) * w := by
  have hsettled := h.settled hidle hstands
  rw [← h.length_reports hidle]
  simp only [Law.deed, hended, sub_self, zero_add, List.map_const', List.sum_replicate,
    nsmul_eq_mul] at hsettled
  linarith

/-- If no delivery and no replay ended with a crash, none was reported. -/
theorem Booked.calm (h : s.Booked r) (hidle : ∀ a ∈ s.actors, a.task.isDone)
    (hreports : ∀ report ∈ s.reports, ∀ text, report.failure ≠ some (.crashed text))
    (hmisses : ∀ text, .crashed text ∉ s.misses) :
    ∀ e ∈ s.gateway.depot.events, e.isFailureOf "panicked" = false := by
  have hended : ∀ failure : Option DeliveryFailure, (∀ text, failure ≠ some (.crashed text)) →
      Law.crashes.ended failure = 0 := by
    intro failure hcalm
    cases failure with
    | none => rfl
    | some failure =>
      cases failure with
      | crashed text => exact absurd rfl (hcalm text)
      | _ => rfl
  have hreported : (s.reports.map fun report ↦ Law.crashes.ended report.failure).sum = 0 := by
    refine List.sum_eq_zero fun w hw ↦ ?_
    obtain ⟨report, hreport, rfl⟩ := List.mem_map.mp hw
    exact hended _ (hreports report hreport)
  have hmissed : (s.misses.map fun failure ↦ Law.crashes.deed (.missed failure)).sum = 0 := by
    refine List.sum_eq_zero fun w hw ↦ ?_
    obtain ⟨failure, hfailure, rfl⟩ := List.mem_map.mp hw
    have hcalm := hended (some failure) fun text heq ↦
      hmisses text (Option.some.inj heq ▸ hfailure)
    simp only [Law.deed, hcalm]
    rfl
  -- the law of crashes stands crashes, so it may be asked before it is known that there were none
  have hsettled := h.settled hidle (L := .crashes) (.inl rfl)
  rw [hreported, hmissed, show Law.crashes.ended none = 0 from rfl] at hsettled
  have hnone : s.gateway.depot.metrics.reason "panicked" = 0 := by
    simpa [Law.crashes] using hsettled
  rw [Depot.metrics, Metrics.reason_ofEvents, List.countP_eq_zero] at hnone
  intro e he
  simpa using hnone e (List.mem_reverse.mpr he)

/-- Any number of dispatches and replays, of single entries and of all pending ones, run in any
order at a gateway whose events are counted; formatters and senders may refuse and crash and the
store may fail. When all have ended, the counters fit together.

Each failure is counted under one label, and those of the calls that a gate turned away under the
label of that. Deliveries, as many as there were targets, and claims of dead letters each end as a
success or as a failure. A failure has left a dead letter, or one that could not be stored, unless
it is that of a replay. If nothing crashed, each attempt has succeeded, or was followed by another
one, or has failed its call. -/
theorem counters_balance {g : Gateway} (hobserved : g.depot.observed = true)
    (hevents : g.depot.events = []) (hquiet : g.pool.fresh = []) {s : Session Deed}
    (hreaches : Reaches works ⟨g, [], []⟩ s) (hidle : ∀ a ∈ s.actors, a.task.isDone) :
    let m := s.gateway.depot.metrics
    m.failures = (m.failureReasons.map Prod.snd).sum ∧
    m.skipped = m.reason "circuit_open" ∧ m.rateLimited = m.reason "rate_limited" ∧
    m.bulkheadFull = m.reason "bulkhead_full" ∧
    m.successes + m.failures = (s.targets g.depot.routing).length + s.claimsMade ∧
    m.failures = m.deadLettersCreated + m.deadLetterHandlerFailures + s.misses.length ∧
    ((∀ report ∈ s.reports, ∀ text, report.failure ≠ some (.crashed text)) →
      (∀ text, .crashed text ∉ s.misses) →
      m.attempts = m.successes + m.retries + m.reason "send_failed") := by
  have h : s.Booked g.depot.routing :=
    (booked_start hobserved hevents hquiet).reaches hreaches
  have hrejections (rejection : Rejection) :
      s.gateway.depot.metrics.rejections rejection =
        s.gateway.depot.metrics.reason rejection.failure.kind := by
    have hsettled := h.settled_evenly hidle (L := .rejections rejection) (w := 0)
      (fun _ ↦ rfl) (.inl rfl)
    simp only [Law.rejections] at hsettled
    omega
  refine ⟨Metrics.failures_ofEvents _, hrejections .circuitOpen, hrejections .rateLimited,
    hrejections .bulkheadFull, ?_, ?_, fun hreports hmisses ↦ ?_⟩
  · have hsettled := h.settled_evenly hidle (L := .outcomes) (w := 1) (fun _ ↦ rfl) (.inl rfl)
    simp only [Law.outcomes] at hsettled
    omega
  · have hsettled := h.settled_evenly hidle (L := .letters) (w := 0) (fun _ ↦ rfl) (.inl rfl)
    simp only [Law.letters] at hsettled
    omega
  · have hstands : Law.attempts.Stands s.gateway.depot.events :=
      .inr (h.calm hidle hreports hmisses)
    have hsettled := h.settled_evenly hidle (w := 0) (fun _ ↦ rfl) hstands
    simp only [Law.attempts] at hsettled
    omega

/-- The gateway with one pending entry, that also sends to a platform without formatter, and whose
store turns the first dead letter down. -/
def withLetterAndRoutes : Gateway :=
  withLetter.withDepot
    { withLetter.depot with
      formatters :=
        ⟨[(⟨"slack", none⟩, { format := fun _ n ↦ .payload (.string n.typeId) })]⟩
      routing :=
        { fallback :=
          [⟨"slack", "alerts", some "https://hooks.slack/alerts", true⟩,
            ⟨"pager", "duty", some "https://pager/duty", true⟩] }
      letters := { withLetter.depot.letters with faults := { store := [true] } } }

/-- While a notification goes to two targets, one of which has no formatter, an entry is replayed.
The failure left no dead letter; with two targets and one claim there are two successes, each of one
attempt. -/
theorem counters_balance_replayed_between :
    ∃ s, Reaches works ⟨withLetterAndRoutes, [], []⟩ s ∧ s.claimsMade = 1 ∧ s.misses = [] ∧
      s.reports.map DeliveryReport.failure = [none, some .noFormatter] ∧
      s.gateway.depot.metrics.failures = 1 ∧ s.gateway.depot.metrics.successes = 2 ∧
      s.gateway.depot.metrics.attempts = 2 := by
  have hplay : (play works
      [(0, 0), (1, 0), (0, 1), (1, 0), (0, 0), (1, 0), (0, 0), (1, 0), (0, 0), (1, 0), (0, 0),
        (0, 0)]
      ⟨withLetterAndRoutes,
        [.new (.dispatch (.pending ⟨"build.failed", "ci", ⟨0, 0⟩, .null, []⟩)),
          .new (.replay { id := ⟨7⟩ })], []⟩).map
        (fun s ↦ ((s.targets withLetterAndRoutes.depot.routing).length, s.claimsMade, s.misses,
          s.reports.map DeliveryReport.failure, s.actors.all fun a ↦ a.task.isDone,
          s.gateway.depot.metrics.deadLettersCreated,
          s.gateway.depot.metrics.deadLetterHandlerFailures, s.gateway.depot.metrics.retries,
          s.gateway.depot.metrics.reason "send_failed")) =
      some (2, 1, [], [none, some .noFormatter], true, 0, 1, 0, 0) := by rfl
  obtain ⟨s, hs, heq⟩ := Option.map_eq_some_iff.mp hplay
  simp only [Prod.mk.injEq] at heq
  obtain ⟨htargets, hclaims, hmisses, hfailures, hdone, hcreated, hfailed, hretries, hsends⟩ := heq
  have hreaches : Reaches works ⟨withLetterAndRoutes, [], []⟩ s :=
    .head (.come (.inl ⟨_, rfl⟩)) (.head (.come (.inr (.inl ⟨⟨7⟩, rfl⟩))) (reaches_of_play hs))
  obtain ⟨-, -, -, -, hended, hletters, hattempts⟩ :=
    counters_balance rfl rfl rfl hreaches (by simpa using hdone)
  rw [htargets, hclaims] at hended
  rw [hcreated, hfailed, hmisses] at hletters
  have hsent := hattempts (fun report hreport text hcrash ↦ by
    have hmem : report.failure ∈ s.reports.map DeliveryReport.failure :=
      List.mem_map_of_mem hreport
    rw [hfailures, hcrash] at hmem
    simp at hmem) (by simp [hmisses])
  rw [hretries, hsends] at hsent
  simp only [List.length_nil] at hletters
  exact ⟨s, hreaches, hclaims, hmisses, hfailures, hletters, by omega, by omega⟩

end Session

end Courier

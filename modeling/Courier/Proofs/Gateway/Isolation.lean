import Courier.Proofs.Gateway.Books
import Courier.Proofs.Gateway.Errands

/-!
# Endpoints and each other's traffic

`Gateway.Course` is any number of moves at a gateway with the errands that they do: moves of tasks,
calls and rate limits by hand, and whatever leaves the gates alone, so that clocks, senders and
everything else may be replaced at any time.

An endpoint is isolated from another one (`Gateway.Isolated`) if it finds its gate, its settings and
every answer to a call the same after two courses of one gateway that differ in the traffic to the
other endpoint only. Endpoints that do not share a resource are isolated from each other. But the
name of a resource does not tell where the platform ends, and `a:b` with `c` has the gate of `a`
with `b:c` (`Gateway.isolated_iff`). Without a colon in the names of platforms this cannot happen
(`Gateway.isolated_of_no_colon`).
-/

set_option autoImplicit false
set_option relaxedAutoImplicit false

namespace Courier

/-- A platform without a colon is all that stands before the first colon of a resource. -/
theorem Endpoint.not_overlaps_of_no_colon {a b : Endpoint} (h : ':' ∉ b.platform.toList) :
    ¬ a.Overlaps b := by
  rintro ⟨middle, hplatform, -⟩
  rw [hplatform, toList_append_colon] at h
  simp at h

/-- The answer to the next move of a call to an endpoint. -/
def Depot.answer (d : Depot) (e : Endpoint) (c : GateCall) :
    Option (Turn GateCall GateCall.End) :=
  (d.call e.resource e.platform c).map Prod.fst

theorem Depot.answer_eq (d : Depot) (e : Endpoint) (c : GateCall) :
    d.answer e c = (d.gates.get? e.resource).bind fun gate ↦
      (d.senders.get? e.platform).bind fun sender ↦
        (c.step d.gates.feedback d.moment { gate, sender }).map Prod.fst := by
  have hgates : d.tick.gates = d.gates := rfl
  have hsenders : d.tick.senders = d.senders := rfl
  rw [answer, call, onScene, hgates, hsenders]
  cases d.gates.get? e.resource with
  | none => rfl
  | some gate =>
    cases d.senders.get? e.platform with
    | none => rfl
    | some sender =>
      simp only [Option.bind_some]
      cases c.step d.gates.feedback d.moment { gate, sender } <;> rfl

/-- Calls are answered alike at the same moment by a gate and a sender that are the same. -/
theorem Depot.answer_congr {d d' : Depot} {e : Endpoint}
    (hsame : d.gates.SameAt d'.gates e.resource) (hmoment : d.moment = d'.moment)
    (hsender : d.senders.get? e.platform = d'.senders.get? e.platform) (c : GateCall) :
    d.answer e c = d'.answer e c := by
  rw [answer_eq, answer_eq, hsame.gate, hsame.feedback, hmoment, hsender]

namespace Gateway

/-! ### Courses -/

/-- A move at a gateway, with its errands. -/
inductive Moves (g : Gateway) : List Errand → Gateway → Prop where
  /-- A task moves. -/
  | turn {choice : ℕ} {task task' : Task} {g' : Gateway} (hcall : task.isCall = false)
      (hstep : task.stepBy (Dispatch.stepOne choice) g = some (task', g')) :
      Moves g (task.errands choice g) g'
  /-- Someone asks for the gate of an endpoint. -/
  | asks (e : Endpoint) {gate : Gate} {gates : GateRegistry}
      (hgate : g.depot.gates.gate e.resource = .ok (gate, gates)) :
      Moves g [⟨e, .ask⟩] (g.withDepot { g.depot with gates })
  /-- A call to an endpoint moves that was made by hand. -/
  | calls (e : Endpoint) {c : GateCall} {turn : Turn GateCall GateCall.End} {site : Depot}
      (hmove : g.depot.call e.resource e.platform c = some (turn, site)) :
      Moves g (g.depot.callErrands e c) (g.withDepot site)
  /-- A call to an endpoint is given up. -/
  | cancels (e : Endpoint) (c : GateCall) :
      Moves g (g.depot.cancelErrands e c)
        (g.withDepot (g.depot.cancelCall e.resource e.platform c))
  /-- A rate limit of the provider of an endpoint is heeded. -/
  | throttles (e : Endpoint) (retryAfter : Option Duration) :
      Moves g [⟨e, .heed retryAfter g.depot.clock.wall⟩] (g.throttle e.resource retryAfter).2
  /-- Anything happens but to the gates. -/
  | others {g' : Gateway} (hgates : g'.depot.gates = g.depot.gates) : Moves g [] g'

/-- Any number of moves at a gateway, with their errands in order. -/
inductive Course (g : Gateway) : List Errand → Gateway → Prop where
  | refl : Course g [] g
  | tail {log more : List Errand} {g' g'' : Gateway} (hcourse : Course g log g')
      (hmove : Moves g' more g'') : Course g (log ++ more) g''

variable {g g' : Gateway} {log : List Errand} {a b : Endpoint}

theorem gates_of_throttle (g : Gateway) (e : Endpoint) (retryAfter : Option Duration) :
    (g.throttle e.resource retryAfter).2.depot.gates =
      g.depot.gates.run [⟨e, .heed retryAfter g.depot.clock.wall⟩] := by
  have hrun : g.depot.gates.run [⟨e, .heed retryAfter g.depot.clock.wall⟩] =
      (g.plant.site.gates.heed e.resource retryAfter g.plant.site.clock.wall).2 := rfl
  rw [hrun, throttle, onDepot]
  rcases g.plant.site.gates.heed e.resource retryAfter g.plant.site.clock.wall with
    ⟨crash | _ | ⟨cooldown, event⟩, gates⟩
  · rfl
  · rfl
  · simp only [Depot.report_hears]
    rfl

/-- A move leaves the gates as its errands leave them. -/
theorem Moves.gates (h : g.Moves log g') : g'.depot.gates = g.depot.gates.run log := by
  cases h with
  | turn hcall hstep => exact Task.gates_of_stepBy hcall hstep
  | asks e hgate => exact GateRegistry.run_ask hgate
  | calls e hmove => exact Depot.gates_of_call hmove
  | cancels e c => exact Depot.gates_of_cancelCall g.depot e c
  | throttles e retryAfter => exact g.gates_of_throttle e retryAfter
  | others hgates => exact hgates

/-- A course leaves the gates as its errands leave them. -/
theorem Course.gates (h : g.Course log g') : g'.depot.gates = g.depot.gates.run log := by
  induction h with
  | refl => rfl
  | tail _ hmove ih => rw [hmove.gates, ih, GateRegistry.run, GateRegistry.run, GateRegistry.run,
      List.foldl_append]

/-! ### Gateways that were built -/

/-- A gateway that was built has the gates of its configuration, none of which has been used. -/
theorem gates_of_build {blueprint : Blueprint} (h : (build blueprint).1 = .ok g) :
    g.depot.gates = gates blueprint.config := by
  unfold build at h
  split at h
  · exact absurd h (by simp)
  · simp only at h
    split at h
    · exact absurd h (by simp)
    · unfold assemble at h
      split at h
      · exact absurd h (by simp)
      split at h
      · exact absurd h (by simp)
      split at h
      · exact absurd h (by simp)
      obtain rfl := Except.ok.inj h
      rfl

theorem orderly_of_build {blueprint : Blueprint} (h : (build blueprint).1 = .ok g) :
    g.depot.gates.Orderly := by
  rw [gates_of_build h]
  intro resource gate hget
  exact absurd hget (by simp [GateRegistry.get?, gates, Json.lookup])

/-! ### Isolation -/

/-- The second endpoint is isolated from the traffic to the first: after two courses of a gateway
that was built, which differ in the errands to the first endpoint only, the gate of the second and
its settings are the same, and calls to it are answered alike. -/
def Isolated (a b : Endpoint) : Prop :=
  ∀ blueprint g, (build blueprint).1 = .ok g →
    ∀ log log' g₁ g₂, g.Course log g₁ → g.Course log' g₂ →
      log.filter (fun e ↦ e.endpoint ≠ a) = log'.filter (fun e ↦ e.endpoint ≠ a) →
      g₁.depot.gates.SameAt g₂.depot.gates b.resource ∧
        (g₁.depot.moment = g₂.depot.moment →
          g₁.depot.senders.get? b.platform = g₂.depot.senders.get? b.platform →
          ∀ c, g₁.depot.answer b c = g₂.depot.answer b c)

/-- Endpoints with different resources are isolated. -/
theorem isolated_of_resource_ne (hother : a.resource ≠ b.resource) : Isolated a b := by
  intro blueprint g hbuild log log' g₁ g₂ hcourse hcourse' hsame
  have hsameAt : g₁.depot.gates.SameAt g₂.depot.gates b.resource := by
    rw [hcourse.gates, hcourse'.gates]
    exact GateRegistry.sameAt_run (orderly_of_build hbuild) hother hsame
  exact ⟨hsameAt, fun hmoment hsender c ↦ Depot.answer_congr hsameAt hmoment hsender c⟩

/-- Endpoints of platforms without a colon are isolated. -/
theorem isolated_of_no_colon (hne : a ≠ b) (ha : ':' ∉ a.platform.toList)
    (hb : ':' ∉ b.platform.toList) : Isolated a b := by
  refine isolated_of_resource_ne fun hresource ↦ ?_
  obtain heq | hoverlaps | hoverlaps := (Endpoint.resource_eq_iff a b).mp hresource
  · exact hne heq
  · exact Endpoint.not_overlaps_of_no_colon hb hoverlaps
  · exact Endpoint.not_overlaps_of_no_colon ha hoverlaps

/-- By the standard settings every gate can be made, and is not throttled at first. -/
theorem new_of_standard (resource : String) :
    ∃ gate, Gate.new resource {} = .ok gate ∧ gate.limiter.cooldown = none :=
  ⟨_, rfl, rfl⟩

/-- By the standard settings every rate limit throttles the limiter. -/
theorem heed_of_standard (resource : String) (limiter : RateLimiter) (wall : ℕ) :
    ∃ cooldown throttled event,
      Feedback.heed {} resource limiter none wall = .ok (some (cooldown, throttled, event)) ∧
        throttled.cooldown.isSome :=
  ⟨_, _, _, rfl, rfl⟩

/-- Endpoints that share a resource are not isolated: a rate limit of the one throttles the
other. -/
theorem not_isolated_of_resource_eq (hshared : a.resource = b.resource) : ¬ Isolated a b := by
  intro hisolated
  obtain ⟨g, hbuild⟩ : ∃ g, (build {}).1 = .ok g := ⟨_, rfl⟩
  have hgates : g.depot.gates = { defaults := {} } := gates_of_build hbuild
  have hunused : g.depot.gates.get? b.resource = none := by rw [hgates]; rfl
  have hsettings : g.depot.gates.settingsFor b.resource = {} := by rw [hgates]; rfl
  obtain ⟨gate, hnew, hfresh⟩ := new_of_standard b.resource
  have hmade : g.depot.gates.gate b.resource = .ok (gate, g.depot.gates.set gate) := by
    simp only [GateRegistry.gate, hunused, hsettings, hnew]
  obtain ⟨cooldown, throttled, event, hheed, hthrottled⟩ :=
    heed_of_standard b.resource gate.limiter g.depot.clock.wall
  have hfeedback : g.depot.gates.feedback = {} := by rw [hgates]
  -- both courses ask for the gate; in the second one the provider of the other endpoint complains
  have hquiet : g.Course [⟨b, .ask⟩] _ := .tail .refl (.asks b hmade)
  have hloud : g.Course [⟨b, .ask⟩, ⟨a, .heed none g.depot.clock.wall⟩] _ :=
    hquiet.tail (.throttles a none)
  have hsame := (hisolated {} g hbuild _ _ _ _ hquiet hloud
    (by rw [List.filter_cons, List.filter_cons]; simp)).1.gate
  have hfate := fun errands ↦
    ((GateRegistry.run_spec (orderly_of_build hbuild) errands).2.2 b.resource).2
  rw [hquiet.gates, hloud.gates, hfate, hfate] at hsame
  have hlimiter : { gate with limiter := throttled } = gate := by
    simpa [GateRegistry.fate, hshared, GateWork.apply, hunused, hsettings, hnew, hfeedback, hheed,
      Except.toOption] using hsame
  rw [← hlimiter] at hfresh
  exact absurd hfresh (Option.isSome_iff_ne_none.mp hthrottled)

/-- An endpoint is isolated from another just if neither of them overlaps the other. -/
theorem isolated_iff (a b : Endpoint) :
    Isolated a b ↔ a ≠ b ∧ ¬ a.Overlaps b ∧ ¬ b.Overlaps a := by
  rw [← not_or, ← not_or, ← Endpoint.resource_eq_iff]
  exact ⟨fun hisolated hshared ↦ not_isolated_of_resource_eq hshared hisolated,
    isolated_of_resource_ne⟩

/-- A gateway with endpoint `b:c` of platform `a`, whose provider is down, and endpoint `c` of
platform `a:b`. One failure opens a circuit. -/
def overlapping : Blueprint where
  config := { resilience := { maxAttempts := 1, breaker := { failureThreshold := 1 } } }
  formatters :=
    ["a", "a:b"].map fun platform ↦
      (⟨platform, none⟩, { format := fun _ n ↦ .payload (.string n.typeId) })
  senders :=
    [("a", { plan := fun _ ↦ ⟨.zero, .result (.ofStatus 500 "down" none)⟩ }), ("a:b", .log)]
  routing := some
    { types :=
      [("one", [⟨"a", "b:c", some "https://one", true⟩]),
        ("two", [⟨"a:b", "c", some "https://two", true⟩])] }

/-- The dispatch of a notification of a type. -/
def dispatchOf (type : String) : Task := .dispatch (.pending ⟨type, "x", ⟨0, 0⟩, .null, []⟩)

end Gateway

namespace Session

/-- The notifications that came and what became of their deliveries, with the endpoints. -/
def story (s : Session Deed) : List Gateway.Task × List (Endpoint × Option DeliveryFailure) :=
  (s.actors.map Actor.origin, s.reports.map fun r ↦ (r.target.at, r.failure))

/-- A notification to endpoint `c` of platform `a:b` is delivered, unless one to endpoint `b:c` of
platform `a` has failed before it. -/
theorem overlapping_endpoints_interfere :
    ∃ g, (Gateway.build Gateway.overlapping).1 = .ok g ∧
      (∃ s, Reaches works ⟨g, [], []⟩ s ∧
        s.story = ([Gateway.dispatchOf "two"], [(⟨"a:b", "c"⟩, none)])) ∧
      ∃ s, Reaches works ⟨g, [], []⟩ s ∧
        s.story = ([Gateway.dispatchOf "one", Gateway.dispatchOf "two"],
          [(⟨"a", "b:c"⟩, some (.sendFailed 500 "HTTP 500: down")),
            (⟨"a:b", "c"⟩, some .circuitOpen)]) := by
  have hrun : ((Gateway.build Gateway.overlapping).1.toOption.bind fun g ↦
      (play works [(0, 0), (0, 0), (0, 0), (0, 0), (0, 0), (0, 0)]
        ⟨g, [.new (Gateway.dispatchOf "two")], []⟩).bind fun s ↦
          (play works
            [(0, 0), (0, 0), (0, 0), (0, 0), (0, 0), (0, 0), (1, 0), (1, 0), (1, 0), (1, 0), (1, 0)]
            ⟨g, [.new (Gateway.dispatchOf "one"), .new (Gateway.dispatchOf "two")], []⟩).map
              fun s' ↦ (s.story, s'.story)) =
      some (([Gateway.dispatchOf "two"], [(⟨"a:b", "c"⟩, none)]),
        [Gateway.dispatchOf "one", Gateway.dispatchOf "two"],
        [(⟨"a", "b:c"⟩, some (.sendFailed 500 "HTTP 500: down")),
          (⟨"a:b", "c"⟩, some .circuitOpen)]) := by rfl
  obtain ⟨g, hg, hrun⟩ := Option.bind_eq_some_iff.mp hrun
  obtain ⟨s, hs, hrun⟩ := Option.bind_eq_some_iff.mp hrun
  obtain ⟨s', hs', heq⟩ := Option.map_eq_some_iff.mp hrun
  obtain ⟨hstory, hstory'⟩ := Prod.mk.inj heq
  have hbuild : (Gateway.build Gateway.overlapping).1 = .ok g := by
    cases h : (Gateway.build Gateway.overlapping).1 with
    | error reason => simp [h, Except.toOption] at hg
    | ok built => rw [h] at hg; exact congrArg _ (Option.some.inj hg)
  have hcomes : ∀ type, works.comes (Gateway.dispatchOf type) := fun type ↦ .inl ⟨_, rfl⟩
  refine ⟨g, hbuild, ⟨s, ?_, hstory⟩, s', ?_, hstory'⟩
  · exact .head (.come (hcomes "two")) (reaches_of_play hs)
  · exact .head (.come (hcomes "one")) (.head (.come (hcomes "two")) (reaches_of_play hs'))

end Session

end Courier

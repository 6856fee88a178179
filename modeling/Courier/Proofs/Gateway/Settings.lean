import Courier.Proofs.Gate.Settings
import Courier.Proofs.Gateway.Isolation

/-!
# The settings of every gate

A configuration gives settings for every gate and overrides for single resources.
`ResilienceSection.Merges` says what comes of them, setting by setting: what the override says, or
else what the section says. The settings that a resource gets are these
(`ResilienceSection.merges_settingsFor`), they are valid if the configuration is
(`ResilienceSection.settingsFor_valid`), and no override says anything about another resource
(`ResilienceSection.settingsFor_insertMember`).

A gateway keeps the settings of the overrides on its own, each as a whole; they are the same
(`Gateway.settingsFor_gates`). With the gates that run by their settings, whatever happens at a
gateway, this gives `Gateway.gates_run_as_configured`.
-/

set_option autoImplicit false
set_option relaxedAutoImplicit false

namespace Courier

namespace Json

variable {α β : Type} {members : List (String × α)} {key : String} {value : α}

/-- What is found is a member. -/
theorem mem_keys_of_lookup (h : lookup key members = some value) :
    key ∈ members.map Prod.fst :=
  isSome_lookup_iff.mp (Option.isSome_of_eq_some h)

/-- Where each value is made from its key, so is the one that is found. -/
theorem lookup_map_key (key : String) (f : String → β) (members : List (String × α)) :
    lookup key (members.map fun m ↦ (m.1, f m.1)) = (lookup key members).map fun _ ↦ f key := by
  induction members with
  | nil => rfl
  | cons member members ih =>
    rw [List.map_cons, lookup_cons, lookup_cons, ih]
    by_cases hkey : key = member.1
    · rw [if_pos hkey, if_pos hkey, hkey]
      rfl
    · rw [if_neg hkey, if_neg hkey]

end Json

namespace ResilienceSection

variable {c : ResilienceSection} {resource : String}

/-- What is different for a resource; without an override nothing is. -/
def overrideOf (c : ResilienceSection) (resource : String) : ResilienceOverride :=
  (Json.lookup resource c.overrides).getD {}

/-- Each of the settings is what the override says or, if it does not say, what the section says.
The retry strategy is one setting. -/
structure Merges (c : ResilienceSection) (o : ResilienceOverride) (s : GateSettings) : Prop where
  maxAttempts : s.maxAttempts = o.maxAttempts.getD c.maxAttempts
  sendTimeout : s.sendTimeout = o.sendTimeout.getD c.sendTimeout
  retry : s.retry = (o.retry.getD c.retry).strategy
  failureThreshold :
    s.breaker.failureThreshold = o.failureThreshold.getD c.breaker.failureThreshold
  failureRateThreshold :
    s.breaker.failureRateThreshold = o.failureRateThreshold.getD c.breaker.failureRateThreshold
  minimumCalls : s.breaker.minimumCalls = o.minimumCalls.getD c.breaker.minimumCalls
  windowSize : s.breaker.windowSize = o.windowSize.getD c.breaker.windowSize
  waitDuration : s.breaker.waitDuration = o.waitDuration.getD c.breaker.waitDuration
  permittedTrials : s.breaker.permittedTrials = o.permittedTrials.getD c.breaker.permittedTrials
  successThreshold :
    s.breaker.successThreshold = o.successThreshold.getD c.breaker.successThreshold
  limitForPeriod : s.limiter.limitForPeriod = o.limitForPeriod.getD c.limiter.limitForPeriod
  refreshPeriod : s.limiter.refreshPeriod = o.refreshPeriod.getD c.limiter.refreshPeriod
  limiterTimeout : s.limiter.timeout = o.limiterTimeout.getD c.limiter.timeout
  maxConcurrent : s.bulkhead.maxConcurrent = o.maxConcurrent.getD c.bulkhead.maxConcurrent
  maxWait : s.bulkhead.maxWait = o.maxWait.getD c.bulkhead.maxWait

/-- The settings of a resource are the section with its override. -/
theorem merges_settingsFor (c : ResilienceSection) (resource : String) :
    c.Merges (c.overrideOf resource) (c.settingsFor resource) := by
  unfold overrideOf settingsFor
  cases Json.lookup resource c.overrides with
  | none => constructor <;> rfl
  | some o =>
    have hretry : (o.retry.map RetrySection.strategy).getD c.retry.strategy =
        (o.retry.getD c.retry).strategy := by
      cases o.retry <;> rfl
    constructor
    case retry => exact hretry
    all_goals rfl

/-- Settings are checked for each resource that has an override. -/
theorem overrideInvalid?_eq_none {resources : List String}
    (h : c.overrideInvalid? resources = none) :
    ∀ resource ∈ resources, (c.settingsFor resource).invalid? = none := by
  induction resources with
  | nil => simp
  | cons first rest ih =>
    rw [overrideInvalid?] at h
    split at h
    · cases h
    · rename_i hfirst
      exact List.forall_mem_cons.mpr ⟨hfirst, ih h⟩

/-- The settings of every resource are valid if the section is. -/
theorem settingsFor_valid (h : c.invalid? = none) (resource : String) :
    (c.settingsFor resource).invalid? = none := by
  obtain ⟨hdefaults, hoverrides⟩ := (Option.orElse_eq_none _ _).mp h
  cases hlookup : Json.lookup resource c.overrides with
  | none => simpa only [settingsFor, hlookup] using hdefaults
  | some o =>
    exact overrideInvalid?_eq_none hoverrides resource (Json.mem_keys_of_lookup hlookup)

/-- An override says nothing about another resource. -/
theorem settingsFor_insertMember (c : ResilienceSection) {other : String} (o : ResilienceOverride)
    (hother : resource ≠ other) :
    settingsFor { c with overrides := Json.insertMember other o c.overrides } resource =
      c.settingsFor resource := by
  simp only [settingsFor, Json.lookup_insertMember, if_neg hother]
  rfl

end ResilienceSection

namespace Gateway

variable {blueprint : Blueprint} {g g' : Gateway} {log : List Errand}

/-- A gateway is built from a valid configuration only. -/
theorem valid_of_build (h : (build blueprint).1 = .ok g) : blueprint.config.invalid? = none := by
  unfold build at h
  split at h
  · exact absurd h (by simp)
  · assumption

/-- A gateway has the same settings for a resource as its configuration. -/
theorem settingsFor_gates (c : Config) (resource : String) :
    (gates c).settingsFor resource = c.resilience.settingsFor resource := by
  rw [GateRegistry.settingsFor, gates, Json.lookup_map_key]
  cases hlookup : Json.lookup resource c.resilience.overrides with
  | none =>
    simp only [ResilienceSection.settingsFor, hlookup]
    rfl
  | some o => rfl

/-- In a gateway that was built, every gate runs by the settings of its configuration. -/
theorem runsBySettings_of_course (hbuild : (build blueprint).1 = .ok g)
    (hcourse : g.Course log g') :
    g'.depot.gates.Orderly ∧ g'.depot.gates.RunsBySettings ∧
      ∀ resource, g'.depot.gates.settingsFor resource =
        blueprint.config.resilience.settingsFor resource := by
  have horderly := orderly_of_build hbuild
  have hfresh : g.depot.gates.RunsBySettings := by
    rw [gates_of_build hbuild]
    exact fun resource gate hget ↦ absurd hget (by simp [GateRegistry.get?, gates, Json.lookup])
  rw [hcourse.gates]
  obtain ⟨horderly', -, hresource⟩ := GateRegistry.run_spec horderly log
  refine ⟨horderly', GateRegistry.runsBySettings_run horderly hfresh log, fun resource ↦ ?_⟩
  rw [(hresource resource).1, gates_of_build hbuild, settingsFor_gates]

/-- In a gateway that was built, whatever happened to it, who asks for the gate of a resource gets
one that runs by the settings that the configuration gives: the value of the override where it has
one, and that of the section otherwise. These settings are valid. A gate that is made for the
request is a new one by these settings; whoever asks again, whatever happens in between, gets a gate
that runs by the same settings. A gate can be made if its slots can be counted and its period of
refresh fits a bucket. What is changed in the override of another resource does not matter. -/
theorem gates_run_as_configured (hbuild : (build blueprint).1 = .ok g)
    (hcourse : g.Course log g') (resource : String) :
    let c := blueprint.config.resilience
    let s := c.settingsFor resource
    c.Merges (c.overrideOf resource) s ∧ s.invalid? = none ∧
      (∀ gate gates, g'.depot.gates.gate resource = .ok (gate, gates) →
        gate.RunsBy s ∧
          (g'.depot.gates.get? resource = none → Gate.new resource s = .ok gate) ∧
          ∀ more g'', (g'.withDepot { g'.depot with gates }).Course more g'' →
            ∃ gate', g''.depot.gates.gate resource = .ok (gate', g''.depot.gates) ∧
              gate'.RunsBy s) ∧
      (s.bulkhead.maxConcurrent ≤ Crash.maxSlots →
        s.limiter.refreshPeriod.nanos ≤ TokenBucket.maxPeriod →
        ∃ gate gates, g'.depot.gates.gate resource = .ok (gate, gates)) ∧
      ∀ other o, resource ≠ other →
        ResilienceSection.settingsFor
          { c with overrides := Json.insertMember other o c.overrides } resource = s := by
  intro c s
  have hvalid : c.invalid? = none := by
    obtain ⟨-, -, hresilience, -⟩ : _ ∧ _ ∧ c.invalid? = none ∧ _ := by
      simpa [Config.invalid?, GateSettings.about] using valid_of_build hbuild
    exact hresilience
  obtain ⟨horderly, hruns, hall⟩ := runsBySettings_of_course hbuild hcourse
  have hsettings : g'.depot.gates.settingsFor resource = s := hall resource
  refine ⟨c.merges_settingsFor resource, c.settingsFor_valid hvalid resource,
    fun gate gates hgate ↦ ⟨?_, fun hnone ↦ ?_, fun more g'' hmore ↦ ?_⟩, fun hslots hperiod ↦ ?_,
    fun other o hother ↦ c.settingsFor_insertMember o hother⟩
  · rw [← hsettings]
    exact (GateRegistry.runsBySettings_of_gate horderly hruns hgate).1
  · rw [← hsettings]
    exact GateRegistry.new_of_gate hgate hnone
  · rw [hmore.gates, ← hsettings]
    exact GateRegistry.exists_gate_run horderly hruns hgate more
  · rw [← hsettings] at hslots hperiod
    exact GateRegistry.exists_gate _ resource hslots hperiod

/-- A gateway in which one endpoint has a smaller window, for which the failure threshold of the
section would be too great. -/
def tightened : Blueprint where
  config :=
    { resilience :=
      { overrides :=
        [("slack:alerts", { windowSize := some 4, failureThreshold := some 4 })] } }

/-- The gate of that endpoint has the smaller window and threshold, and the other settings of the
section; that of another endpoint has all of these. -/
theorem gates_run_as_configured_tightened :
    ∃ g, (build tightened).1 = .ok g ∧
      (∃ gate gates, g.depot.gates.gate "slack:alerts" = .ok (gate, gates) ∧
        gate.breaker.settings.windowSize = 4 ∧ gate.breaker.settings.failureThreshold = 4 ∧
        gate.settings.maxAttempts = 3 ∧ gate.settings.invalid? = none) ∧
      ∃ gate gates, g.depot.gates.gate "slack:ci" = .ok (gate, gates) ∧
        gate.breaker.settings.windowSize = 20 := by
  obtain ⟨g, hbuild⟩ : ∃ g, (build tightened).1 = .ok g := ⟨_, rfl⟩
  obtain ⟨hmerges, hvalid, hruns, hmade, -⟩ :=
    gates_run_as_configured hbuild .refl "slack:alerts"
  obtain ⟨hmerges', -, hruns', hmade', -⟩ := gates_run_as_configured hbuild .refl "slack:ci"
  obtain ⟨gate, gates, hgate⟩ := hmade (by decide) (by decide)
  obtain ⟨gate', gates', hgate'⟩ := hmade' (by decide) (by decide)
  have hby := (hruns gate gates hgate).1
  refine ⟨g, hbuild, ⟨gate, gates, hgate, ?_, ?_, ?_, ?_⟩, gate', gates', hgate', ?_⟩
  · rw [hby.breaker, hmerges.windowSize]
    rfl
  · rw [hby.breaker, hmerges.failureThreshold]
    rfl
  · rw [hby.settings, hmerges.maxAttempts]
    rfl
  · rw [hby.settings]
    exact hvalid
  · rw [(hruns' gate' gates' hgate').1.breaker, hmerges'.windowSize]
    rfl

end Gateway

end Courier

import Courier.Proofs.Gateway.Building
import Courier.Proofs.Gateway.Settings
import Mathlib.Data.Fintype.EquivFin

/-!
# Configurations with which nothing crashes

A configuration is sturdy (`Config.Sturdy`) if no build with it crashes and every gate can be made,
at any time and for any resource. What is checked about a configuration is not enough for this: it
bounds from below what is counted and timed, and nothing bounds it from above. A valid configuration
is sturdy if and only if its queue can be counted, and the slots and the refill of its defaults and
of each override fit too (`Config.sturdy_iff`). Gates are made when they are first asked for, so
most of this shows long after the gateway was built (`Config.accepted_config_crashes`).
-/

set_option autoImplicit false
set_option relaxedAutoImplicit false

namespace Courier

namespace ResilienceSection

/-- Some resource has no settings of its own. -/
theorem exists_settingsFor_eq_defaults (c : ResilienceSection) :
    ∃ resource, c.settingsFor resource = c.defaults := by
  obtain ⟨resource, hfresh⟩ :=
    Infinite.exists_notMem_finset (c.overrides.map Prod.fst).toFinset
  refine ⟨resource, ?_⟩
  cases hlookup : Json.lookup resource c.overrides with
  | none => simp only [settingsFor, hlookup]
  | some o => exact absurd (List.mem_toFinset.mpr (Json.mem_keys_of_lookup hlookup)) hfresh

/-- What holds of the settings of every resource is what holds of the defaults and of the settings
of each override. -/
theorem forall_settingsFor_iff (c : ResilienceSection) (P : GateSettings → Prop) :
    (∀ resource, P (c.settingsFor resource)) ↔
      P c.defaults ∧ ∀ o ∈ c.overrides, P (c.settingsFor o.1) := by
  constructor
  · intro h
    obtain ⟨resource, hresource⟩ := c.exists_settingsFor_eq_defaults
    exact ⟨hresource ▸ h resource, fun o _ ↦ h o.1⟩
  · rintro ⟨hdefaults, hoverrides⟩ resource
    cases hlookup : Json.lookup resource c.overrides with
    | none => simpa only [settingsFor, hlookup] using hdefaults
    | some o =>
      obtain ⟨entry, hentry, rfl⟩ := List.mem_map.mp (Json.mem_keys_of_lookup hlookup)
      exact hoverrides entry hentry

end ResilienceSection

namespace Config

/-- No build with a configuration crashes, and in each gateway that is built, whatever happens to
it, who asks for the gate of any resource gets it. -/
structure Sturdy (c : Config) : Prop where
  builds : ∀ b : Blueprint, b.config = c →
    ∀ crash, (Gateway.build b).1 ≠ .error (.crashed crash)
  makes : ∀ b : Blueprint, b.config = c → ∀ g, (Gateway.build b).1 = .ok g →
    ∀ log g', g.Course log g' → ∀ resource, ∃ gate gates,
      g'.depot.gates.gate resource = .ok (gate, gates)

/-- The queue of a configuration can be counted, and all gates by its settings can be made. -/
structure Fits (c : Config) : Prop where
  queue : c.pool.queueCapacity ≤ Crash.maxSlots
  defaults : c.resilience.defaults.Fits
  overrides : ∀ o ∈ c.resilience.overrides, (c.resilience.settingsFor o.1).Fits

variable {c : Config}

theorem Fits.settingsFor (h : c.Fits) (resource : String) :
    (c.resilience.settingsFor resource).Fits :=
  (c.resilience.forall_settingsFor_iff GateSettings.Fits).mpr ⟨h.defaults, h.overrides⟩ resource

theorem Fits.sturdy (h : c.Fits) : c.Sturdy where
  builds := by
    rintro b rfl crash hcrash
    obtain ⟨added, hfault⟩ := (Gateway.build_eq_error_iff h.queue).mp hcrash
    cases hfault
  makes := by
    rintro b rfl g hbuild log g' hcourse resource
    obtain ⟨-, -, hsettings⟩ := Gateway.runsBySettings_of_course hbuild hcourse
    exact GateRegistry.exists_gate_of_fits _ resource (hsettings resource ▸ h.settingsFor resource)

/-- A valid configuration of which nothing is registered is acceptable. -/
theorem acceptable_of_valid (h : c.invalid? = none) : ({ config := c } : Blueprint).Acceptable :=
  ⟨h, .nil, by simp, .nil, .nil⟩

theorem Sturdy.fits (h : c.Sturdy) (hvalid : c.invalid? = none) : c.Fits := by
  have hbuild := Gateway.build_of_acceptable (acceptable_of_valid hvalid)
  split at hbuild
  · exact absurd hbuild (h.builds _ rfl _)
  · rename_i hqueue
    obtain ⟨g, hg, -⟩ := hbuild
    have hgates : ∀ resource, (c.resilience.settingsFor resource).Fits := by
      intro resource
      obtain ⟨gate, gates, hgate⟩ := h.makes _ rfl g hg [] g .refl resource
      have hunused : g.depot.gates.get? resource = none := by
        rw [Gateway.gates_of_build hg]
        rfl
      have hnew := GateRegistry.new_of_gate hgate hunused
      rw [Gateway.gates_of_build hg, Gateway.settingsFor_gates] at hnew
      exact (Gate.exists_new_iff resource _).mp ⟨gate, hnew⟩
    obtain ⟨hdefaults, hoverrides⟩ :=
      (c.resilience.forall_settingsFor_iff GateSettings.Fits).mp hgates
    exact ⟨(le_max_left ..).trans (not_lt.mp hqueue), hdefaults, hoverrides⟩

/-- With a valid configuration nothing crashes if and only if its queue can be counted and the slots
and the refill of its defaults and of each override fit. -/
theorem sturdy_iff (hvalid : c.invalid? = none) : c.Sturdy ↔ c.Fits :=
  ⟨fun h ↦ h.fits hvalid, Fits.sturdy⟩

/-- Nothing crashes with the configuration in which nothing is set. -/
theorem sturdy_iff_default : ({} : Config).invalid? = none ∧ ({} : Config).Sturdy := by
  have hvalid : ({} : Config).invalid? = none := rfl
  have hfits : ({} : Config).Fits := ⟨by decide, ⟨by decide, by decide⟩, by simp⟩
  exact ⟨hvalid, (sturdy_iff hvalid).mpr hfits⟩

/-- A configuration with one place in the queue more than can be counted. -/
def longQueue : Config where
  pool := { queueCapacity := 2305843009213693952 }

/-- A configuration in which one endpoint has one slot more than can be counted. -/
def crowded : Config where
  resilience :=
    { overrides := [("slack:alerts", { maxConcurrent := some 2305843009213693952 })] }

/-- A configuration in which the only token of a limiter comes back after a year too many. -/
def unhurried : Config where
  resilience := { limiter := { limitForPeriod := 1, refreshPeriod := .ofMillis 18446744073710 } }

/-- All three are valid. A build with the first crashes; with the others it succeeds, and the first
request for the gate of an endpoint crashes. -/
theorem accepted_config_crashes :
    (longQueue.invalid? = none ∧
      (Gateway.build { config := longQueue }).1 = .error (.crashed .queueTooLong)) ∧
    (crowded.invalid? = none ∧ ∃ g, (Gateway.build { config := crowded }).1 = .ok g ∧
      g.depot.gates.gate "slack:alerts" = .error .tooManySlots) ∧
    (unhurried.invalid? = none ∧ ∃ g, (Gateway.build { config := unhurried }).1 = .ok g ∧
      g.depot.gates.gate "slack:alerts" = .error .periodTooLong) :=
  ⟨⟨rfl, rfl⟩, ⟨rfl, _, rfl, rfl⟩, rfl, _, rfl, rfl⟩

end Config

end Courier

import Courier.Config.Basic
import Courier.Proofs.Notification.Codec
import Courier.Proofs.Routing

/-!
# Blank addresses

A route with a blank address of its own is treated as one without, and gets the address that the
table has for its endpoint. Whether this one is blank is not looked at. So a route may rest on a
blank address (`RoutingTable.RestsOnBlank`): it is usable, although it is not reachable
(`Usable.reachable_or_restsOnBlank`), it leads to a target with a blank address, and its tier wins
over later tiers.

`RoutingTable.Discerns` says that this does not happen to a notification. It holds if and only if no
route of the tier that decides rests on a blank address (`discerns_iff`), and it holds whatever
the routes are if and only if the table has no blank address for an endpoint
(`blank_from_endpoints`). No check of a configuration sees to that
(`blank_endpoint_beats_default`).
-/

set_option autoImplicit false
set_option relaxedAutoImplicit false

namespace Courier.RoutingTable

variable {t : RoutingTable} {typeId category : String} {r : Route} {target : Target}
  {tier : List Route} {later : List (List Route)}

/-- The route is enabled and has an address with something to see. -/
def Reachable (t : RoutingTable) (r : Route) : Prop :=
  r.enabled = true ∧ ∃ url, t.Addressed r url ∧ Text.Shows url

/-- The route is enabled, has no address of its own that shows anything, and gets a blank one from
the table. -/
structure RestsOnBlank (t : RoutingTable) (r : Route) : Prop where
  enabled : r.enabled = true
  own : ∀ own, r.url = some own → Text.isBlank own = true
  endpoint : ∃ url, t.endpointUrl? r.platform r.endpoint = some url ∧ Text.isBlank url = true

/-- The tier decides where a notification goes, before some later tiers: it is the first tier with a
usable route. -/
def Decides (t : RoutingTable) (typeId category : String) (tier : List Route)
    (later : List (List Route)) : Prop :=
  ∃ before, t.tiers typeId category = before ++ tier :: later ∧
    (∀ routes ∈ before, ∀ r ∈ routes, ¬ t.Usable r) ∧ ∃ r ∈ tier, t.Usable r

/-- Blank addresses count for nothing: every target of a notification has an address with something
to see, and no tier without a reachable route wins over a later tier with one. -/
structure Discerns (t : RoutingTable) (typeId category : String) : Prop where
  shows : ∀ target ∈ t.resolve typeId category, Text.Shows target.url
  yields : ∀ tier later, t.Decides typeId category tier later →
    (∃ routes ∈ later, ∃ r ∈ routes, t.Reachable r) → ∃ r ∈ tier, t.Reachable r

/-! ### Where blank addresses come from -/

/-- The address of a route shows something, unless it is that of its endpoint. -/
theorem Addressed.shows_or_endpoint {url : String} (h : t.Addressed r url) :
    Text.Shows url ∨ (∀ own, r.url = some own → Text.isBlank own = true) ∧
      t.endpointUrl? r.platform r.endpoint = some url := by
  cases h with
  | own _ hblank => exact .inl (Text.shows_iff.mpr hblank)
  | endpoint hown hurl => exact .inr ⟨hown, hurl⟩

/-- A route that leads to a blank address rests on it. -/
theorem Leads.shows_or_restsOnBlank (h : t.Leads r target) :
    Text.Shows target.url ∨ t.RestsOnBlank r := by
  by_cases hshows : Text.Shows target.url
  · exact .inl hshows
  · obtain ⟨hown, hurl⟩ := h.addressed.shows_or_endpoint.resolve_left hshows
    have hblank : Text.isBlank target.url = true := by
      simpa [Text.shows_iff] using hshows
    exact .inr ⟨h.enabled, hown, target.url, hurl, hblank⟩

theorem Usable.reachable_or_restsOnBlank (h : t.Usable r) : t.Reachable r ∨ t.RestsOnBlank r := by
  obtain ⟨henabled, url, haddressed⟩ := h
  have hleads : t.Leads r ⟨r.platform, r.endpoint, url⟩ := ⟨henabled, rfl, rfl, haddressed⟩
  exact hleads.shows_or_restsOnBlank.imp_left fun hshows ↦ ⟨henabled, url, haddressed, hshows⟩

/-- A route that rests on a blank address leads there. -/
theorem RestsOnBlank.exists_leads (h : t.RestsOnBlank r) :
    ∃ target, t.Leads r target ∧ ¬ Text.Shows target.url := by
  obtain ⟨url, hurl, hblank⟩ := h.endpoint
  exact ⟨⟨r.platform, r.endpoint, url⟩, ⟨h.enabled, rfl, rfl, .endpoint h.own hurl⟩,
    by simp [Text.shows_iff, hblank]⟩

theorem Leads.usable (h : t.Leads r target) : t.Usable r := ⟨h.enabled, _, h.addressed⟩

/-! ### The tier that decides -/

/-- The targets are what the routes of the tier that decides lead to. -/
theorem Decides.mem_resolve_iff (h : t.Decides typeId category tier later) :
    target ∈ t.resolve typeId category ↔ ∃ r ∈ tier, t.Leads r target := by
  obtain ⟨before, htiers, hbefore, htier⟩ := h
  rw [resolve_of_first htiers hbefore htier, List.mem_filterMap]
  simp only [target?_eq_some_iff]

/-- Where there is a target, there is a tier that decides. -/
theorem exists_decides (h : target ∈ t.resolve typeId category) :
    ∃ tier later, t.Decides typeId category tier later := by
  by_contra hnone
  refine List.ne_nil_of_mem h (resolve_eq_nil_iff.mpr fun routes hroutes r hr husable ↦ hnone ?_)
  obtain ⟨before, tier, after, hfirst⟩ := exists_first ⟨routes, hroutes, r, hr, husable⟩
  exact ⟨tier, after, before, hfirst⟩

/-- Blank addresses count for nothing if and only if no route of the tier that decides rests on
one. -/
theorem discerns_iff :
    t.Discerns typeId category ↔
      ∀ tier later, t.Decides typeId category tier later → ∀ r ∈ tier, ¬ t.RestsOnBlank r := by
  constructor
  · intro h tier later hdecides r hr hrests
    obtain ⟨target, hleads, hblank⟩ := hrests.exists_leads
    exact hblank (h.shows target (hdecides.mem_resolve_iff.mpr ⟨r, hr, hleads⟩))
  · intro h
    refine ⟨fun target htarget ↦ ?_, fun tier later hdecides _ ↦ ?_⟩
    · obtain ⟨tier, later, hdecides⟩ := exists_decides htarget
      obtain ⟨r, hr, hleads⟩ := hdecides.mem_resolve_iff.mp htarget
      exact hleads.shows_or_restsOnBlank.resolve_right (h tier later hdecides r hr)
    · obtain ⟨-, -, -, r, hr, husable⟩ := id hdecides
      exact ⟨r, hr, husable.reachable_or_restsOnBlank.resolve_right (h tier later hdecides r hr)⟩

/-- A table with a single route, which is a default route, decides by it if it is usable. -/
theorem decides_single
    (husable : Usable { t with types := [], categories := [], fallback := [r] } r)
    (typeId category : String) :
    Decides { t with types := [], categories := [], fallback := [r] } typeId category [r] [] :=
  ⟨[[], []], rfl, by simp, r, List.mem_singleton.mpr rfl, husable⟩

/-- A blank address of a target is always that of its endpoint in the table. For a notification,
blank addresses count for nothing if and only if no route of the tier that decides rests on one: is
enabled, shows no address of its own, and has an endpoint with a blank one. For a table of
endpoints they count for nothing, whatever the routes and whatever the notification, if and
only if none of its addresses is blank. -/
theorem blank_from_endpoints (t : RoutingTable) :
    (∀ typeId category, ∀ target ∈ t.resolve typeId category, ¬ Text.Shows target.url →
      t.endpointUrl? target.platform target.endpoint = some target.url) ∧
    (∀ typeId category, t.Discerns typeId category ↔
      ∀ tier later, t.Decides typeId category tier later → ∀ r ∈ tier, ¬ t.RestsOnBlank r) ∧
    ((∀ types categories fallback typeId category,
        Discerns { t with types, categories, fallback } typeId category) ↔
      ∀ platform endpoint url, t.endpointUrl? platform endpoint = some url → Text.Shows url) := by
  refine ⟨fun typeId category target htarget hblank ↦ ?_, fun _ _ ↦ discerns_iff, ?_, ?_⟩
  · obtain ⟨tier, later, hdecides⟩ := exists_decides htarget
    obtain ⟨r, -, hleads⟩ := hdecides.mem_resolve_iff.mp htarget
    rw [hleads.platform, hleads.endpoint]
    exact (hleads.addressed.shows_or_endpoint.resolve_left hblank).2
  · intro h platform endpoint url hurl
    have hleads : Leads { t with
        types := [], categories := [], fallback := [{ platform, endpoint }] }
        { platform, endpoint } ⟨platform, endpoint, url⟩ :=
      ⟨rfl, rfl, rfl, .endpoint (fun _ hown ↦ nomatch hown) hurl⟩
    have hdecides := decides_single hleads.usable "" ""
    exact (h [] [] _ "" "").shows _
      (hdecides.mem_resolve_iff.mpr ⟨_, List.mem_singleton.mpr rfl, hleads⟩)
  · intro h types categories fallback typeId category
    refine discerns_iff.mpr fun tier later _ r _ hrests ↦ ?_
    obtain ⟨url, hurl, hblank⟩ := hrests.endpoint
    exact absurd hblank (by simp [Text.shows_iff.mp (h _ _ url hurl)])

/-- A table with a blank address for the only endpoint of a type, and with an address by default. -/
def blankEndpoint : RoutingTable where
  endpoints := [("slack", [("ci", " ")])]
  types := [("build.failed", [{ platform := "slack", endpoint := "ci" }])]
  fallback := [{ platform := "discord", endpoint := "ops", url := some "https://discord/ops" }]

/-- A configuration with this table is valid. The notification goes to the blank address, and the
default does not win. -/
theorem blank_endpoint_beats_default :
    Config.invalid? { routing := blankEndpoint } = none ∧
    blankEndpoint.resolve "build.failed" "ci" = [⟨"slack", "ci", " "⟩] ∧
    ¬ Text.Shows " " ∧
    (∃ r ∈ blankEndpoint.fallback, blankEndpoint.Reachable r) ∧
    ¬ blankEndpoint.Discerns "build.failed" "ci" := by
  have hresolve : blankEndpoint.resolve "build.failed" "ci" = [⟨"slack", "ci", " "⟩] := by decide
  have hblank : ¬ Text.Shows " " := by
    simp only [Text.shows_iff]
    decide
  refine ⟨rfl, hresolve, hblank, ⟨_, List.mem_singleton.mpr rfl, rfl, "https://discord/ops",
    .own rfl rfl, Text.shows_iff.mpr rfl⟩, fun h ↦ hblank ?_⟩
  exact h.shows ⟨"slack", "ci", " "⟩ (hresolve ▸ List.mem_singleton.mpr rfl)

end Courier.RoutingTable

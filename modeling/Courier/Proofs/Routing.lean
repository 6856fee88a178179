import Courier.Routing
import Courier.Proofs.Json.Members
import Mathlib.Data.List.Forall2
import Mathlib.Logic.Relation

/-!
# Where notifications go

`RoutingTable.Addressed` says which address a route has, and `RoutingTable.Leads` to which target it
leads; a route is usable if it leads anywhere (`RoutingTable.Usable`). The targets of a notification
are those to which the usable routes of one tier lead, in their order: of the first tier that has a
usable route (`resolve_of_first`). A route that is not usable, or is of another type or category,
may be put into the table or taken out of it anywhere, and the targets stay what they are
(`Gains.resolve_eq`).
-/

set_option autoImplicit false
set_option relaxedAutoImplicit false

namespace Courier.RoutingTable

variable {t t' : RoutingTable} {typeId category url : String} {r : Route} {target : Target}
  {routes : List Route}

/-! ### Routes -/

/-- The address of a route: its own if that is not blank, or else the one that the table has for its
endpoint. -/
inductive Addressed (t : RoutingTable) (r : Route) (url : String) : Prop where
  | own (hurl : r.url = some url) (hblank : Text.isBlank url = false)
  | endpoint (hown : ∀ own, r.url = some own → Text.isBlank own = true)
      (hurl : t.endpointUrl? r.platform r.endpoint = some url)

/-- The target to which a route leads. -/
structure Leads (t : RoutingTable) (r : Route) (target : Target) : Prop where
  enabled : r.enabled = true
  platform : target.platform = r.platform
  endpoint : target.endpoint = r.endpoint
  addressed : t.Addressed r target.url

/-- The route is enabled and has an address. -/
def Usable (t : RoutingTable) (r : Route) : Prop :=
  r.enabled = true ∧ ∃ url, t.Addressed r url

theorem address?_eq_some_iff : t.address? r = some url ↔ t.Addressed r url := by
  unfold address?
  cases hurl : r.url with
  | none =>
    refine ⟨fun h ↦ .endpoint (by simp [hurl]) h, fun h ↦ ?_⟩
    cases h with
    | own hown => exact absurd (hurl.symm.trans hown) (by simp)
    | endpoint _ h => exact h
  | some own =>
    cases hblank : Text.isBlank own with
    | true =>
      rw [Option.filter_some, if_neg (by simp [hblank])]
      refine ⟨fun h ↦ .endpoint (fun own' hown ↦ ?_) h, fun h ↦ ?_⟩
      · obtain rfl := Option.some.inj (hurl.symm.trans hown)
        exact hblank
      · cases h with
        | own hown hfull =>
          obtain rfl := Option.some.inj (hurl.symm.trans hown)
          exact absurd (hblank.symm.trans hfull) (by simp)
        | endpoint _ h => exact h
    | false =>
      rw [Option.filter_some, if_pos (by simp [hblank])]
      refine ⟨fun h ↦ ?_, fun h ↦ ?_⟩
      · obtain rfl := Option.some.inj h
        exact .own hurl hblank
      · cases h with
        | own hown => exact hurl.symm.trans hown
        | endpoint hown => exact absurd (hblank.symm.trans (hown own hurl)) (by simp)

theorem target?_eq_some_iff : t.target? r = some target ↔ t.Leads r target := by
  obtain ⟨platform, endpoint, url⟩ := target
  unfold target?
  by_cases henabled : r.enabled = true
  · rw [if_pos henabled]
    simp only [Option.map_eq_some_iff, address?_eq_some_iff, Target.mk.injEq]
    constructor
    · rintro ⟨url', haddressed, rfl, rfl, rfl⟩
      exact ⟨henabled, rfl, rfl, haddressed⟩
    · rintro ⟨-, rfl, rfl, haddressed⟩
      exact ⟨url, haddressed, rfl, rfl, rfl⟩
  · rw [if_neg henabled]
    exact ⟨fun h ↦ absurd h (by simp), fun h ↦ absurd h.enabled henabled⟩

/-- A route is usable just if it leads anywhere. -/
theorem isSome_target?_iff : (t.target? r).isSome = true ↔ t.Usable r := by
  rw [Option.isSome_iff_exists]
  constructor
  · rintro ⟨target, h⟩
    have hleads := target?_eq_some_iff.mp h
    exact ⟨hleads.enabled, _, hleads.addressed⟩
  · rintro ⟨henabled, url, haddressed⟩
    exact ⟨⟨r.platform, r.endpoint, url⟩,
      target?_eq_some_iff.mpr ⟨henabled, rfl, rfl, haddressed⟩⟩

instance (t : RoutingTable) : DecidablePred t.Usable := fun _ ↦
  decidable_of_iff _ isSome_target?_iff

theorem target?_eq_none_iff : t.target? r = none ↔ ¬ t.Usable r := by
  rw [← isSome_target?_iff, Option.not_isSome_iff_eq_none]

/-- Each usable route leads to a target, in order. -/
theorem forall₂_leads (t : RoutingTable) (routes : List Route) :
    List.Forall₂ t.Leads (routes.filter t.Usable) (routes.filterMap t.target?) := by
  induction routes with
  | nil => exact .nil
  | cons r routes ih =>
    cases htarget : t.target? r with
    | none =>
      have hidle := target?_eq_none_iff.mp htarget
      rwa [List.filterMap_cons_none htarget, List.filter_cons_of_neg (by simpa using hidle)]
    | some target =>
      have husable : t.Usable r := isSome_target?_iff.mp (by rw [htarget, Option.isSome_some])
      rw [List.filterMap_cons_some htarget, List.filter_cons_of_pos (by simpa using husable)]
      exact .cons (target?_eq_some_iff.mp htarget) ih

theorem filterMap_target?_eq_nil_iff :
    routes.filterMap t.target? = [] ↔ ∀ r ∈ routes, ¬ t.Usable r := by
  rw [List.filterMap_eq_nil_iff]
  exact forall₂_congr fun _ _ ↦ target?_eq_none_iff

/-! ### Tiers -/

/-- The targets are those of the first tier that has a usable route. -/
theorem resolve_of_first {before after : List (List Route)} {tier : List Route}
    (htiers : t.tiers typeId category = before ++ tier :: after)
    (hbefore : ∀ routes ∈ before, ∀ r ∈ routes, ¬ t.Usable r) (htier : ∃ r ∈ tier, t.Usable r) :
    t.resolve typeId category = tier.filterMap t.target? := by
  have hskipped : (before.map (List.filterMap t.target?)).find? (fun targets ↦ !targets.isEmpty) =
      none := by
    simpa [List.find?_eq_none, target?_eq_none_iff] using hbefore
  have hfound : (!(tier.filterMap t.target?).isEmpty) = true := by
    obtain ⟨r, hr, husable⟩ := htier
    rw [Bool.not_eq_true', List.isEmpty_eq_false_iff]
    exact fun hempty ↦ filterMap_target?_eq_nil_iff.mp hempty r hr husable
  rw [resolve, htiers, List.map_append, List.map_cons, List.find?_append, hskipped, Option.none_or]
  exact congrArg (Option.getD · []) (List.find?_cons_of_pos hfound)

/-- Of the tiers with a usable route one is the first. -/
theorem exists_first (h : ∃ routes ∈ t.tiers typeId category, ∃ r ∈ routes, t.Usable r) :
    ∃ before tier after, t.tiers typeId category = before ++ tier :: after ∧
      (∀ routes ∈ before, ∀ r ∈ routes, ¬ t.Usable r) ∧ ∃ r ∈ tier, t.Usable r := by
  have hfirst : ((t.tiers typeId category).find? fun routes ↦ routes.any (t.Usable ·)).isSome := by
    rw [List.find?_isSome]
    obtain ⟨routes, hroutes, r, hr, husable⟩ := h
    exact ⟨routes, hroutes, List.any_eq_true.mpr ⟨r, hr, by simpa using husable⟩⟩
  obtain ⟨tier, htier⟩ := Option.isSome_iff_exists.mp hfirst
  obtain ⟨hany, before, after, htiers, hbefore⟩ := List.find?_eq_some_iff_append.mp htier
  exact ⟨before, tier, after, htiers, by simpa using hbefore, by simpa using hany⟩

theorem resolve_eq_nil_iff :
    t.resolve typeId category = [] ↔
      ∀ routes ∈ t.tiers typeId category, ∀ r ∈ routes, ¬ t.Usable r := by
  constructor
  · -- a tier with a usable route would have targets, and so would the first such tier
    intro hempty
    by_contra husable
    push Not at husable
    obtain ⟨before, tier, after, htiers, hbefore, r, hr, h⟩ := exists_first husable
    rw [resolve_of_first htiers hbefore ⟨r, hr, h⟩, filterMap_target?_eq_nil_iff] at hempty
    exact hempty r hr h
  · intro hidle
    have hnone : ((t.tiers typeId category).map (List.filterMap t.target?)).find?
        (fun targets ↦ !targets.isEmpty) = none := by
      simpa [List.find?_eq_none, target?_eq_none_iff] using hidle
    rw [resolve, hnone, Option.getD_none]

/-! ### Routes that do not matter -/

/-- The second table is the first with one more route anywhere in it, which does not matter for a
notification: it is of another type or category, or is not usable. -/
inductive Gains (typeId category : String) (t t' : RoutingTable) : Prop where
  | type {key : String} {before after : List Route} {r : Route}
      (hbefore : routesOf key t.types = before ++ after)
      (hafter : routesOf key t'.types = before ++ r :: after)
      (hothers : ∀ other, other ≠ key → routesOf other t'.types = routesOf other t.types)
      (hcategories : t'.categories = t.categories) (hfallback : t'.fallback = t.fallback)
      (hendpoints : t'.endpoints = t.endpoints) (hidle : key ≠ typeId ∨ ¬ t.Usable r)
  | category {key : String} {before after : List Route} {r : Route}
      (hbefore : routesOf key t.categories = before ++ after)
      (hafter : routesOf key t'.categories = before ++ r :: after)
      (hothers : ∀ other, other ≠ key →
        routesOf other t'.categories = routesOf other t.categories)
      (htypes : t'.types = t.types) (hfallback : t'.fallback = t.fallback)
      (hendpoints : t'.endpoints = t.endpoints) (hidle : key ≠ category ∨ ¬ t.Usable r)
  | fallback {before after : List Route} {r : Route}
      (hbefore : t.fallback = before ++ after) (hafter : t'.fallback = before ++ r :: after)
      (htypes : t'.types = t.types) (hcategories : t'.categories = t.categories)
      (hendpoints : t'.endpoints = t.endpoints) (hidle : ¬ t.Usable r)

/-- Which target a route leads to is a matter of the endpoints alone. -/
theorem target?_congr (hendpoints : t'.endpoints = t.endpoints) : t'.target? = t.target? := by
  funext r
  unfold target? address? endpointUrl?
  rw [hendpoints]

/-- A route that is not usable leads nowhere. -/
theorem filterMap_target?_insert (before after : List Route) (hidle : ¬ t.Usable r) :
    (before ++ r :: after).filterMap t.target? = (before ++ after).filterMap t.target? := by
  rw [List.filterMap_append, List.filterMap_append,
    List.filterMap_cons_none (target?_eq_none_iff.mpr hidle)]

/-- The routes of a key, after one was put among those of some key. -/
theorem filterMap_routesOf {key wanted : String} {before after : List Route}
    {table table' : List (String × List Route)} (hbefore : routesOf key table = before ++ after)
    (hafter : routesOf key table' = before ++ r :: after)
    (hothers : ∀ other, other ≠ key → routesOf other table' = routesOf other table)
    (hidle : key ≠ wanted ∨ ¬ t.Usable r) :
    (routesOf wanted table').filterMap t.target? = (routesOf wanted table).filterMap t.target? := by
  by_cases hkey : wanted = key
  · subst hkey
    rw [hbefore, hafter, filterMap_target?_insert _ _ (hidle.resolve_left (· rfl))]
  · rw [hothers wanted hkey]

/-- A route that does not matter changes no targets. -/
theorem Gains.resolve_eq (h : Gains typeId category t t') :
    t'.resolve typeId category = t.resolve typeId category := by
  unfold resolve tiers
  cases h with
  | type hbefore hafter hothers hcategories hfallback hendpoints hidle =>
    rw [target?_congr hendpoints, hcategories, hfallback]
    simp only [List.map_cons, filterMap_routesOf hbefore hafter hothers hidle]
  | category hbefore hafter hothers htypes hfallback hendpoints hidle =>
    rw [target?_congr hendpoints, htypes, hfallback]
    simp only [List.map_cons, filterMap_routesOf hbefore hafter hothers hidle]
  | fallback hbefore hafter htypes hcategories hendpoints hidle =>
    rw [target?_congr hendpoints, htypes, hcategories, hbefore, hafter]
    simp only [List.map_cons, filterMap_target?_insert _ _ hidle]

theorem resolve_eq_of_eqvGen (h : Relation.EqvGen (Gains typeId category) t t') :
    t'.resolve typeId category = t.resolve typeId category := by
  induction h with
  | rel t t' hgains => exact hgains.resolve_eq
  | refl t => rfl
  | symm t t' _ ih => exact ih.symm
  | trans t₁ t₂ t₃ _ _ ih₁ ih₂ => exact ih₂.trans ih₁

/-- A route put among those of a type. -/
theorem gains_insert {key : String} {before after : List Route}
    (hbefore : routesOf key t.types = before ++ after) (hidle : key ≠ typeId ∨ ¬ t.Usable r) :
    Gains typeId category t
      { t with types := Json.insertMember key (before ++ r :: after) t.types } :=
  .type hbefore (by simp [routesOf, Json.lookup_insertMember])
    (fun other hother ↦ by simp [routesOf, Json.lookup_insertMember, hother]) rfl rfl rfl hidle

/-- The targets of a notification, for every table, type and category. Of the tiers of its type, its
category and the default, the first that has a usable route decides: each usable route of that tier
leads to one target, in the order of the table, and no other route does. There are no targets if and
only if no tier has a usable route. Routes of other types and categories, and routes that are not
usable, may be put in or taken out anywhere, as many as one likes, and the targets stay the same. -/
theorem resolve_first_usable (t : RoutingTable) (typeId category : String) :
    (∀ before tier after, t.tiers typeId category = before ++ tier :: after →
      (∀ routes ∈ before, ∀ r ∈ routes, ¬ t.Usable r) → (∃ r ∈ tier, t.Usable r) →
      List.Forall₂ t.Leads (tier.filter t.Usable) (t.resolve typeId category)) ∧
    (t.resolve typeId category = [] ↔
      ∀ routes ∈ t.tiers typeId category, ∀ r ∈ routes, ¬ t.Usable r) ∧
    ∀ t', Relation.EqvGen (Gains typeId category) t t' →
      t'.resolve typeId category = t.resolve typeId category := by
  refine ⟨fun before tier after htiers hbefore htier ↦ ?_, resolve_eq_nil_iff,
    fun t' ↦ resolve_eq_of_eqvGen⟩
  rw [resolve_of_first htiers hbefore htier]
  exact t.forall₂_leads tier

/-- A table whose routes for a type are disabled or have no address, so that the category decides.
-/
def fallingThrough : RoutingTable where
  endpoints := [("discord", [("ops", "https://discord/ops")])]
  types :=
    [("build.failed",
      [{ platform := "slack", endpoint := "ci", url := some "https://ci", enabled := false },
       { platform := "slack", endpoint := "missing", url := some " " }])]
  categories :=
    [("ci",
      [{ platform := "discord", endpoint := "ops", url := some "" },
       { platform := "discord", endpoint := "ops", url := some "https://inline" },
       { platform := "discord", endpoint := "missing" },
       { platform := "discord", endpoint := "ops" }])]
  fallback := [{ platform := "slack", endpoint := "alerts", url := some "https://alerts" }]

/-- The category decides, and an endpoint that has two routes is a target twice. A route for another
type and one without an address make no difference. -/
theorem resolve_first_usable_falling_through :
    List.Forall₂ fallingThrough.Leads
      [{ platform := "discord", endpoint := "ops", url := some "" },
       { platform := "discord", endpoint := "ops", url := some "https://inline" },
       { platform := "discord", endpoint := "ops" }]
      (fallingThrough.resolve "build.failed" "ci") ∧
    (fallingThrough.withTypeRoute "build.passed" ⟨"slack", "ci", some "https://ci", true⟩).resolve
      "build.failed" "ci" = fallingThrough.resolve "build.failed" "ci" ∧
    fallingThrough.resolve "build.failed" "ci" ≠ [] := by
  obtain ⟨htier, hempty, hsame⟩ := resolve_first_usable fallingThrough "build.failed" "ci"
  refine ⟨htier [_] _ [_] rfl (by decide) (by decide), hsame _ (.rel _ _ ?_), fun h ↦ ?_⟩
  · have hlast := (List.append_nil (routesOf "build.passed" fallingThrough.types)).symm
    exact gains_insert hlast (.inl (by decide))
  · exact absurd (hempty.mp h) (by decide)

end Courier.RoutingTable

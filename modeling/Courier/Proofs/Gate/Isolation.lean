import Courier.Delivery.Target
import Courier.Proofs.Delivery.Return
import Mathlib.Data.List.Induction

/-!
# The gates of different endpoints

Gates are kept under the names of their resources, and the name of a resource is the platform, a
colon and the name of the endpoint. `Errand` is a piece of work on the gate of an endpoint, and
`GateRegistry.run` does some of them one after the other.

The gate of a resource is what the errands to that resource have made of it: `GateWork.apply` is
what one of them does to a gate, taken by itself, and `run_spec` says that the registry does nothing
else. So errands to another resource change nothing there (`sameAt_run`).

Two endpoints share a resource just if the platform of one of them goes on with a colon and the
beginning of the other's name (`Endpoint.resource_eq_iff`).
-/

set_option autoImplicit false
set_option relaxedAutoImplicit false

namespace Courier

/-! ### Endpoints -/

/-- An endpoint of a platform. -/
@[ext]
structure Endpoint where
  platform : String
  name : String
  deriving DecidableEq, Repr

/-- The name of the resource of an endpoint. -/
def Endpoint.resource (e : Endpoint) : String := e.platform ++ ":" ++ e.name

/-- The endpoint of a target. -/
def Target.at (t : Target) : Endpoint := ⟨t.platform, t.endpoint⟩

/-- A target has the resource of its endpoint. -/
@[simp] theorem Target.resource_at (t : Target) : t.at.resource = t.resource := rfl

namespace Endpoint

variable {a b : Endpoint}

/-- The platform of the second endpoint is that of the first with a colon and the beginning of its
name, up to another colon. -/
def Overlaps (a b : Endpoint) : Prop :=
  ∃ middle : String, b.platform = a.platform ++ ":" ++ middle ∧ a.name = middle ++ ":" ++ b.name

theorem resource_eq_of_overlaps (h : a.Overlaps b) : a.resource = b.resource := by
  obtain ⟨middle, hplatform, hname⟩ := h
  simp only [resource, hplatform, hname, String.append_assoc]

theorem toList_append_colon (s t : String) :
    (s ++ ":" ++ t).toList = s.toList ++ ':' :: t.toList := by
  simp

/-- Where the platform of one endpoint goes on with some text and the resources are the same, there
is no such text, or it begins with the colon and the second endpoint is overlapped. -/
theorem eq_or_overlaps {between : List Char}
    (hplatform : b.platform.toList = a.platform.toList ++ between)
    (hname : ':' :: a.name.toList = between ++ ':' :: b.name.toList) : a = b ∨ a.Overlaps b := by
  cases between with
  | nil =>
    rw [List.append_nil, String.toList_inj] at hplatform
    rw [List.nil_append, List.cons_inj_right, String.toList_inj] at hname
    exact .inl (Endpoint.ext hplatform.symm hname)
  | cons first rest =>
    rw [List.cons_append, List.cons.injEq] at hname
    obtain ⟨rfl, hrest⟩ := hname
    refine .inr ⟨String.ofList rest, ?_, ?_⟩ <;>
      rw [← String.toList_inj, toList_append_colon, String.toList_ofList]
    · exact hplatform
    · exact hrest

/-- Two endpoints share a resource just if they are one, or one overlaps the other. -/
theorem resource_eq_iff (a b : Endpoint) :
    a.resource = b.resource ↔ a = b ∨ a.Overlaps b ∨ b.Overlaps a := by
  constructor
  · intro hresource
    rw [resource, resource, ← String.toList_inj, toList_append_colon, toList_append_colon,
      List.append_eq_append_iff] at hresource
    obtain ⟨between, hplatform, hname⟩ | ⟨between, hplatform, hname⟩ := hresource
    · obtain heq | hoverlaps := eq_or_overlaps hplatform hname
      · exact .inl heq
      · exact .inr (.inl hoverlaps)
    · obtain heq | hoverlaps := eq_or_overlaps hplatform hname
      · exact .inl heq.symm
      · exact .inr (.inr hoverlaps)
  · rintro (rfl | h | h)
    · rfl
    · exact resource_eq_of_overlaps h
    · exact (resource_eq_of_overlaps h).symm

end Endpoint

/-! ### Work on a gate -/

/-- Work on the gate of a resource. -/
inductive GateWork where
  /-- Someone asks for the gate, which is made if there is none. -/
  | ask
  /-- A call makes a move, if it can, at a moment and with the sender as it is then. -/
  | call (c : GateCall) (m : Moment) (sender : Sender)
  /-- A call is given up. -/
  | cancel (c : GateCall) (sender : Sender)
  /-- A rate limit of the provider is heeded. -/
  | heed (retryAfter : Option Duration) (wall : ℕ)

/-- Work on the gate of an endpoint. -/
structure Errand where
  endpoint : Endpoint
  work : GateWork

/-- What work makes of a gate by itself; none is a gate that nobody has asked for. -/
def GateWork.apply (resource : String) (settings : GateSettings) (f : Feedback) :
    GateWork → Option Gate → Option Gate
  | .ask, gate => gate.or (Gate.new resource settings).toOption
  | .call c m sender, gate =>
    gate.map fun g ↦ (c.step f m { gate := g, sender }).elim g fun next ↦ next.2.gate
  | .cancel c sender, gate => gate.map fun g ↦ (c.cancel { gate := g, sender }).gate
  | .heed retryAfter wall, gate =>
    (gate.or (Gate.new resource settings).toOption).map fun g ↦
      match f.heed resource g.limiter retryAfter wall with
      | .ok (some (_, limiter, _)) => { g with limiter }
      | _ => g

/-- Giving up a call leaves the gate that of its resource. -/
theorem GateCall.resource_of_cancel (c : GateCall) (s : GateScene) :
    (c.cancel s).gate.resource = s.gate.resource := by
  unfold cancel
  split <;> rfl

namespace GateRegistry

/-- Does some work on the gate of a resource. -/
def perform (r : GateRegistry) (resource : String) : GateWork → GateRegistry
  | .ask =>
    match r.gate resource with
    | .ok (_, r) => r
    | .error _ => r
  | .call c m sender =>
    match r.get? resource with
    | none => r
    | some gate =>
      match c.step r.feedback m { gate, sender } with
      | none => r
      | some (_, scene) => r.set scene.gate
  | .cancel c sender =>
    match r.get? resource with
    | none => r
    | some gate => r.set (c.cancel { gate, sender }).gate
  | .heed retryAfter wall => (r.heed resource retryAfter wall).2

/-- Does some errands one after the other. -/
def run (r : GateRegistry) (errands : List Errand) : GateRegistry :=
  errands.foldl (fun r e ↦ r.perform e.endpoint.resource e.work) r

variable {r r' r'' : GateRegistry} {resource : String} {g : Gate}

/-- Only the gate of one resource has changed, if any. -/
structure Touches (r : GateRegistry) (resource : String) (r' : GateRegistry) : Prop where
  others : ∀ other, other ≠ resource → r'.get? other = r.get? other
  defaults : r'.defaults = r.defaults
  overrides : r'.overrides = r.overrides
  feedback : r'.feedback = r.feedback
  orderly : r.Orderly → r'.Orderly

theorem Touches.refl (r : GateRegistry) (resource : String) : r.Touches resource r :=
  ⟨fun _ _ ↦ rfl, rfl, rfl, rfl, id⟩

theorem Touches.trans (h : r.Touches resource r') (h' : r'.Touches resource r'') :
    r.Touches resource r'' where
  others other hne := (h'.others other hne).trans (h.others other hne)
  defaults := h'.defaults.trans h.defaults
  overrides := h'.overrides.trans h.overrides
  feedback := h'.feedback.trans h.feedback
  orderly := h'.orderly ∘ h.orderly

theorem touches_set (r : GateRegistry) (h : g.resource = resource) :
    r.Touches resource (r.set g) where
  others other hne := by rw [get?_set, if_neg (h ▸ hne)]
  defaults := rfl
  overrides := rfl
  feedback := rfl
  orderly horderly other g' hget := by
    rw [get?_set] at hget
    split_ifs at hget with hother
    · obtain rfl := Option.some.inj hget
      exact hother.symm
    · exact horderly other g' hget

/-- Asking for the gate of a resource finds it or makes it, or fails and changes nothing. -/
theorem gate_cases (r : GateRegistry) (resource : String) :
    (∃ g r', r.gate resource = .ok (g, r') ∧ r.Touches resource r' ∧ r'.get? resource = some g ∧
      (r.get? resource).or (Gate.new resource (r.settingsFor resource)).toOption = some g) ∨
    ∃ crash, r.gate resource = .error crash ∧ r.get? resource = none ∧
      (Gate.new resource (r.settingsFor resource)).toOption = none := by
  unfold gate
  cases hget : r.get? resource with
  | some g => exact .inl ⟨g, r, rfl, .refl r resource, hget, rfl⟩
  | none =>
    cases hnew : Gate.new resource (r.settingsFor resource) with
    | error crash => exact .inr ⟨crash, rfl, rfl, rfl⟩
    | ok g =>
      have hresource := resource_of_new hnew
      exact .inl ⟨g, r.set g, rfl, touches_set r hresource, by
        rw [get?_set, if_pos hresource.symm], rfl⟩

/-- A gate that is put in its place is there, and no other gate has changed. -/
theorem touches_and_get?_set (r : GateRegistry) {after : Option Gate}
    (hresource : g.resource = resource) (hafter : after = some g) :
    r.Touches resource (r.set g) ∧ (r.set g).get? resource = after :=
  ⟨touches_set r hresource, by rw [get?_set, if_pos hresource.symm, hafter]⟩

/-- Work on the gate of a resource leaves that of every other alone, and what it makes of the gate
depends on nothing but that gate, its settings and how rate limits are heeded. -/
theorem perform_spec (horderly : r.Orderly) (resource : String) (w : GateWork) :
    r.Touches resource (r.perform resource w) ∧
      (r.perform resource w).get? resource =
        w.apply resource (r.settingsFor resource) r.feedback (r.get? resource) := by
  cases w with
  | ask =>
    obtain ⟨g, r', hgate, htouches, hget, hmade⟩ | ⟨crash, hgate, hget, hnone⟩ :=
      r.gate_cases resource
    · simp only [perform, hgate, GateWork.apply, hmade, hget]
      exact ⟨htouches, trivial⟩
    · simp only [perform, hgate, GateWork.apply, hget, hnone]
      exact ⟨.refl r resource, rfl⟩
  | call c m sender =>
    cases hget : r.get? resource with
    | none =>
      simp only [perform, hget, GateWork.apply]
      exact ⟨.refl r resource, rfl⟩
    | some gate =>
      cases hstep : c.step r.feedback m { gate, sender } with
      | none =>
        simp only [perform, hget, hstep, GateWork.apply, Option.map_some]
        exact ⟨.refl r resource, rfl⟩
      | some next =>
        have hmatches := GateCall.matches_of_advance (GateCall.advance_of_step hstep)
        have hresource := hmatches.resource.trans (horderly resource gate hget)
        simp only [perform, hget, hstep, GateWork.apply]
        exact touches_and_get?_set r hresource (by simp [hstep])
  | cancel c sender =>
    cases hget : r.get? resource with
    | none =>
      simp only [perform, hget, GateWork.apply]
      exact ⟨.refl r resource, rfl⟩
    | some gate =>
      have hresource : (c.cancel { gate, sender }).gate.resource = resource :=
        (GateCall.resource_of_cancel c _).trans (horderly resource gate hget)
      simp only [perform, hget, GateWork.apply]
      exact touches_and_get?_set r hresource rfl
  | heed retryAfter wall =>
    obtain ⟨g, r', hgate, htouches, hget, hmade⟩ | ⟨crash, hgate, hget, hnone⟩ :=
      r.gate_cases resource
    · have hresource := htouches.orderly horderly resource g hget
      simp only [perform, heed, hgate, htouches.feedback, GateWork.apply, hmade, Option.map_some]
      rcases r.feedback.heed resource g.limiter retryAfter wall with
        crash | _ | ⟨cooldown, limiter, event⟩
      · exact ⟨htouches, hget⟩
      · exact ⟨htouches, hget⟩
      · obtain ⟨hset, hafter⟩ := touches_and_get?_set r' (g := { g with limiter }) hresource rfl
        exact ⟨htouches.trans hset, hafter⟩
    · simp only [perform, heed, hgate, GateWork.apply, hget, hnone]
      exact ⟨.refl r resource, rfl⟩

/-! ### Errands -/

theorem Touches.settingsFor (h : r.Touches resource r') (other : String) :
    r'.settingsFor other = r.settingsFor other := by
  rw [GateRegistry.settingsFor, GateRegistry.settingsFor, h.defaults, h.overrides]

/-- A resource is the same in two registries: its gate, the settings it gets, and how rate limits of
its provider are heeded. -/
structure SameAt (r r' : GateRegistry) (resource : String) : Prop where
  gate : r'.get? resource = r.get? resource
  settings : r'.settingsFor resource = r.settingsFor resource
  feedback : r'.feedback = r.feedback

theorem SameAt.refl (r : GateRegistry) (resource : String) : r.SameAt r resource := ⟨rfl, rfl, rfl⟩

/-- What the errands to a resource make of its gate. -/
def fate (r : GateRegistry) (resource : String) (errands : List Errand) : Option Gate :=
  (errands.filter fun e ↦ e.endpoint.resource = resource).foldl
    (fun gate e ↦ e.work.apply resource (r.settingsFor resource) r.feedback gate)
    (r.get? resource)

/-- Errands make of the gate of a resource what those to that resource make of it, and leave all
settings alone. -/
theorem run_spec (horderly : r.Orderly) (errands : List Errand) :
    (r.run errands).Orderly ∧ (r.run errands).feedback = r.feedback ∧
      ∀ resource, (r.run errands).settingsFor resource = r.settingsFor resource ∧
        (r.run errands).get? resource = r.fate resource errands := by
  induction errands using List.reverseRecOn with
  | nil => exact ⟨horderly, rfl, fun resource ↦ ⟨rfl, rfl⟩⟩
  | append_singleton errands e ih =>
    obtain ⟨horderly', hfeedback, hresource⟩ := ih
    obtain ⟨htouches, hget⟩ := perform_spec horderly' e.endpoint.resource e.work
    have hrun : r.run (errands ++ [e]) =
        (r.run errands).perform e.endpoint.resource e.work := List.foldl_concat ..
    rw [hrun]
    refine ⟨htouches.orderly horderly', htouches.feedback.trans hfeedback, fun resource ↦
      ⟨(htouches.settingsFor resource).trans (hresource resource).1, ?_⟩⟩
    by_cases hsame : e.endpoint.resource = resource
    · subst hsame
      rw [hget, (hresource _).1, (hresource _).2, hfeedback, fate, fate, List.filter_append,
        List.foldl_append]
      simp
    · rw [htouches.others resource (Ne.symm hsame), (hresource _).2, fate, fate,
        List.filter_append]
      simp [hsame]

/-- Runs that differ only in the errands to one endpoint leave every other resource the same. -/
theorem sameAt_run (horderly : r.Orderly) {a : Endpoint} (hother : a.resource ≠ resource)
    {errands errands' : List Errand}
    (hsame : errands.filter (fun e ↦ e.endpoint ≠ a) = errands'.filter fun e ↦ e.endpoint ≠ a) :
    (r.run errands).SameAt (r.run errands') resource := by
  -- the errands to the resource are among those that are not to the endpoint
  have hamong : ∀ l : List Errand, l.filter (fun e ↦ e.endpoint.resource = resource) =
      (l.filter fun e ↦ e.endpoint ≠ a).filter fun e ↦ e.endpoint.resource = resource := by
    intro l
    rw [List.filter_filter]
    refine List.filter_congr fun e _ ↦ ?_
    by_cases hresource : e.endpoint.resource = resource
    · have hne : e.endpoint ≠ a := fun heq ↦ hother (heq ▸ hresource)
      simp [hresource, hne]
    · simp [hresource]
  obtain ⟨-, hfeedback, hleft⟩ := run_spec horderly errands
  obtain ⟨-, hfeedback', hright⟩ := run_spec horderly errands'
  exact
    { gate := by
        rw [(hleft resource).2, (hright resource).2, fate, fate, hamong errands, hamong errands',
          hsame]
      settings := (hright resource).1.trans (hleft resource).1.symm
      feedback := hfeedback'.trans hfeedback.symm }

end GateRegistry

end Courier

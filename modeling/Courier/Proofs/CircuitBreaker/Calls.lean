import Courier.Proofs.CircuitBreaker.Chronicle
import Mathlib.Data.Nat.Find

/-!
# What some deeds lead to

`Annals.Leads` says that one state of a breaker and its history leads to another by some deeds, with
a number of resets among them; it composes (`Leads.trans`), and what holds in every run holds of all
that a new breaker leads to (`Leads.faithful`). A call at a closed circuit that is settled at once
does to the breaker what its outcome does and leaves the permits held as they were (`call_succeed`,
`call_fail`). So failures in a row open a circuit that has just closed, whatever its settings
(`Failing.exists_opened`), and as many as do not open it stay in its window
(`Failing.exists_of_untripped`).
-/

set_option autoImplicit false
set_option relaxedAutoImplicit false

namespace Courier

open Rehearsal (Settlement)

/-- The circuit is reset. -/
def Custody.Deed.isReset : Custody.Deed → Bool
  | .reset => true
  | _ => false

/-- The resets in some deeds. -/
def Custody.resets (deeds : List Custody.Deed) : ℕ := deeds.countP Custody.Deed.isReset

theorem Custody.resets_concat (deeds : List Deed) (deed : Deed) :
    resets (deeds ++ [deed]) = resets deeds + if deed.isReset then 1 else 0 := by
  simp [resets, List.countP_append, List.countP_singleton]

/-- A breaker whose settings are valid has a window for as many failures as open it. -/
theorem CircuitBreaker.failureThreshold_le {s : BreakerSettings} (h : s.invalid? = none) :
    s.failureThreshold ≤ s.windowSize := by
  unfold BreakerSettings.invalid? at h
  split_ifs at h with h₁ h₂ h₃ h₄ h₅ h₆
  omega

/-- An outcome for which there is room leaves the others in the window. -/
theorem CircuitBreaker.push_of_room {b : CircuitBreaker} (failed : Bool)
    (hroom : b.window.length < b.settings.windowSize) :
    b.push failed =
      { b with
        window := b.window ++ [failed]
        failures := if failed then b.failures + 1 else b.failures } := by
  have hkept : makeRoom b.settings.windowSize b.window b.failures = (b.window, b.failures) := by
    cases hwindow : b.window with
    | nil => rfl
    | cons oldest window => rw [makeRoom, if_neg (by simpa [hwindow] using hroom)]
  simp [push, hkept]

/-- The periods in which the breaker was half open. -/
def BreakerHistory.halfOpenings : BreakerHistory → ℕ
  | [] => 0
  | .moved .halfOpen _ :: earlier => halfOpenings earlier + 1
  | _ :: earlier => halfOpenings earlier

namespace Annals

/-- Some deeds, with a number of resets among them, lead from one state to another. -/
def Leads (resets : ℕ) (a a' : Annals) : Prop :=
  ∃ deeds : List Custody.Deed, deeds.foldl act a = a' ∧ Custody.resets deeds = resets

variable {a a' a'' : Annals} {s : BreakerSettings}

theorem Leads.refl (a : Annals) : Leads 0 a a := ⟨[], rfl, rfl⟩

theorem Leads.trans {r r' : ℕ} (h : Leads r a a') (h' : Leads r' a' a'') :
    Leads (r + r') a a'' := by
  obtain ⟨deeds, rfl, rfl⟩ := h
  obtain ⟨more, rfl, rfl⟩ := h'
  exact ⟨deeds ++ more, List.foldl_append, List.countP_append⟩

/-- One deed more. -/
theorem Leads.act {r : ℕ} (h : Leads r a a') (deed : Custody.Deed) :
    Leads (r + if deed.isReset then 1 else 0) a (a'.act deed) := by
  obtain ⟨deeds, rfl, rfl⟩ := h
  exact ⟨deeds ++ [deed], List.foldl_concat .., Custody.resets_concat deeds deed⟩

theorem Leads.settings {r : ℕ} (h : Leads r a a') :
    a'.custody.breaker.settings = a.custody.breaker.settings := by
  obtain ⟨deeds, rfl, -⟩ := h
  induction deeds using List.reverseRecOn with
  | nil => rfl
  | append_singleton deeds deed ih =>
    rw [List.foldl_concat]
    exact (Custody.act_settings _ deed).trans ih

/-- The history goes on telling the counts and the permits. -/
theorem Leads.faithful {r : ℕ} (h : Leads r a a') (hf : a.Faithful)
    (hvalid : a.custody.breaker.settings.invalid? = none) : a'.Faithful := by
  obtain ⟨deeds, rfl, -⟩ := h
  induction deeds using List.reverseRecOn with
  | nil => exact hf
  | append_singleton deeds deed ih =>
    have hled : Leads (Custody.resets deeds) a (deeds.foldl Annals.act a) := ⟨deeds, rfl, rfl⟩
    rw [List.foldl_concat]
    exact ih.act (by rwa [hled.settings]) deed

/-! ### A call at a closed circuit -/

/-- A call that succeeds. -/
theorem call_succeed (hclosed : a.custody.breaker.state = .closed) :
    (a.act .acquire).act (.settle 0 .succeed) =
      ⟨{ a.custody with
          breaker := a.custody.breaker.push false, granted := a.custody.granted + 1 },
        .settled a.custody.granted false :: .granted a.custody.granted :: a.past⟩ := by
  have hcall := @CircuitBreaker.succeed_call a.custody.breaker (a.custody.breaker.permit false)
    a.custody.now rfl rfl
  simp [Annals.act, Custody.act, Custody.acquire, Custody.settle, seen, Settlement.apply,
    Settlement.event, CircuitBreaker.acquire_closed hclosed, hcall]

/-- A call that fails. -/
theorem call_fail (hclosed : a.custody.breaker.state = .closed) :
    (a.act .acquire).act (.settle 0 .fail) =
      if (a.custody.breaker.push true).tripped then
        ⟨{ a.custody with
            breaker := (a.custody.breaker.push true).moveTo .opened a.custody.now
            granted := a.custody.granted + 1 },
          .moved .opened a.custody.now :: .settled a.custody.granted true ::
            .granted a.custody.granted :: a.past⟩
      else
        ⟨{ a.custody with
            breaker := a.custody.breaker.push true, granted := a.custody.granted + 1 },
          .settled a.custody.granted true :: .granted a.custody.granted :: a.past⟩ := by
  have hcall := @CircuitBreaker.fail_call a.custody.breaker (a.custody.breaker.permit false)
    a.custody.now rfl rfl
  by_cases htripped : (a.custody.breaker.push true).tripped = true <;>
    simp [Annals.act, Custody.act, Custody.acquire, Custody.settle, seen, Settlement.apply,
      Settlement.event, CircuitBreaker.acquire_closed hclosed, hcall, htripped]

/-! ### Failures in a row -/

/-- One state leads to another without a reset, and no more permits are held then and no half open
period has begun. -/
structure Aside (a a' : Annals) : Prop where
  leads : Leads 0 a a'
  held_eq : a'.custody.held = a.custody.held
  halfOpenings_eq : a'.past.halfOpenings = a.past.halfOpenings

/-- A circuit is closed, and the outcomes since it closed are some failures. -/
structure Failing (a a' : Annals) (n : ℕ) : Prop extends Aside a a' where
  closed : a'.custody.breaker.state = .closed
  window_eq : a'.custody.breaker.window = List.replicate n true
  failures_eq : a'.custody.breaker.failures = n

variable {n : ℕ}

/-- One failure more comes into the window. -/
theorem Failing.push (h : Failing a a' n) (hroom : n < a.custody.breaker.settings.windowSize) :
    a'.custody.breaker.push true =
      { a'.custody.breaker with window := List.replicate (n + 1) true, failures := n + 1 } := by
  have hlength : a'.custody.breaker.window.length < a'.custody.breaker.settings.windowSize := by
    rwa [h.window_eq, List.length_replicate, h.leads.settings]
  rw [CircuitBreaker.push_of_room true hlength, h.window_eq, h.failures_eq, if_pos rfl,
    List.replicate_succ']

/-- Whether one failure more opens the circuit. -/
theorem Failing.tripped_iff (h : Failing a a' n)
    (hroom : n < a.custody.breaker.settings.windowSize) :
    (a'.custody.breaker.push true).tripped = true ↔
      BreakerHistory.Trips a.custody.breaker.settings (List.replicate (n + 1) true) := by
  rw [h.push hroom, ← h.leads.settings]
  refine Annals.tripped_iff ?_ ?_
  · exact (List.count_replicate_self ..).symm
  · exact (List.reverse_replicate ..).symm

/-- One failure more that does not open the circuit. -/
theorem Failing.next (h : Failing a a' n) (hroom : n < a.custody.breaker.settings.windowSize)
    (hstays : ¬ BreakerHistory.Trips a.custody.breaker.settings (List.replicate (n + 1) true)) :
    Failing a ((a'.act .acquire).act (.settle 0 .fail)) (n + 1) := by
  have hleads := (h.leads.act .acquire).act (.settle 0 .fail)
  rw [← h.tripped_iff hroom] at hstays
  rw [call_fail h.closed, if_neg hstays] at hleads ⊢
  rw [h.push hroom] at hleads ⊢
  exact ⟨⟨hleads, h.held_eq, h.halfOpenings_eq⟩, h.closed, rfl, rfl⟩

/-- One failure more that opens the circuit. -/
theorem Failing.opens (h : Failing a a' n) (hroom : n < a.custody.breaker.settings.windowSize)
    (hopens : BreakerHistory.Trips a.custody.breaker.settings (List.replicate (n + 1) true)) :
    ∃ a'', Aside a a'' ∧ a''.custody.breaker.state = .opened := by
  have hleads := (h.leads.act .acquire).act (.settle 0 .fail)
  rw [← h.tripped_iff hroom] at hopens
  rw [call_fail h.closed, if_pos hopens] at hleads
  exact ⟨_, ⟨hleads, h.held_eq, h.halfOpenings_eq⟩, rfl⟩

/-- As many failures in a row as do not open the circuit. -/
theorem Failing.exists_of_untripped (h : Failing a a 0) (n : ℕ)
    (hroom : n ≤ a.custody.breaker.settings.windowSize)
    (hstays : ∀ k < n,
      ¬ BreakerHistory.Trips a.custody.breaker.settings (List.replicate (k + 1) true)) :
    ∃ a', Failing a a' n := by
  induction n with
  | zero => exact ⟨a, h⟩
  | succ n ih =>
    obtain ⟨a', hfailing⟩ := ih (Nat.le_of_succ_le hroom) fun k hk ↦
      hstays k (Nat.lt_succ_of_lt hk)
    exact ⟨_, hfailing.next hroom (hstays n (Nat.lt_succ_self n))⟩

/-- Enough failures in a row open the circuit. -/
theorem Failing.exists_opened (h : Failing a a 0)
    (hvalid : a.custody.breaker.settings.invalid? = none) :
    ∃ a', Aside a a' ∧ a'.custody.breaker.state = .opened := by
  obtain ⟨hpositive, -, -, -⟩ := CircuitBreaker.bounds_of_valid hvalid
  have hroom := CircuitBreaker.failureThreshold_le hvalid
  have hthreshold : BreakerHistory.Trips a.custody.breaker.settings
      (List.replicate (a.custody.breaker.settings.failureThreshold - 1 + 1) true) := by
    rw [Nat.sub_add_cancel hpositive]
    exact Or.inl (Nat.le_of_eq (List.count_replicate_self ..).symm)
  -- the first failure that opens the circuit
  have hsome : ∃ n, BreakerHistory.Trips a.custody.breaker.settings
      (List.replicate (n + 1) true) := ⟨_, hthreshold⟩
  have hfirst := Nat.find_min' hsome hthreshold
  obtain ⟨a', hfailing⟩ := h.exists_of_untripped (Nat.find hsome) (by omega)
    fun k hk ↦ Nat.find_min hsome hk
  exact hfailing.opens (by omega) (Nat.find_spec hsome)

end Annals

end Courier

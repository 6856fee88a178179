import Courier.Proofs.Gate.Advance
import Courier.Proofs.RateLimiter

/-!
# What a signal of a provider does to traffic

Calls that do not wait come to a limiter, and signals of the provider throttle it. The question is
what one more signal does to the number of calls that are admitted: two runs are compared, one with
the signal and one without it.

A limiter is measured by its debt (`RateLimiter.debt`), the instant until which its tokens are
spent. It admits a call if the debt is at most a refill away (`Metered.poll_of_debt_le`), and being
throttled counts as a debt with which no call is admitted. One limiter trails another by so many
calls if it owes at most so many tokens more, now and at any later time (`RateLimiter.Trails`). An
event changes the distance by the call that it admits to one of the two (`Trails.meet`), so in any
run the other limiter admits at most so many calls more (`Trails.admitted_le`). The next signal
leaves no difference.

A signal puts a debt of its own in the place of the one before. The limiter without the signal
trails the one with it by nothing if it would have recovered by the end of the cooldown
(`Afloat.trails_signal_of_recovered`), and otherwise at most by its quota and by what a longer
throttling had still kept back (`Afloat.trails_signal`). The law is
`RateLimiter.signals_hold_back`.
-/

set_option autoImplicit false
set_option relaxedAutoImplicit false

namespace Courier

/-! ### Schedules -/

/-- What comes to the limiter of an endpoint. -/
inductive LimiterEvent where
  /-- Someone asks for admission. -/
  | call
  /-- The provider is asked too often. -/
  | signal (cooldown : Duration)

/-- What comes, and when. -/
abbrev LimiterSchedule := List (Moment × LimiterEvent)

/-- The cooldown throttles a limiter: there is one, and a bucket can have it. -/
def Duration.Throttles (cooldown : Duration) : Prop :=
  0 < cooldown.nanos ∧ cooldown.nanos ≤ TokenBucket.maxPeriod

namespace LimiterSchedule

/-- No clock goes back, and the running clock is not at its end. -/
structure Timely (s : LimiterSchedule) : Prop where
  ordered : s.Pairwise fun a b ↦ a.1.now ≤ b.1.now ∧ a.1.wall ≤ b.1.wall
  running : ∀ e ∈ s, e.1.now < Moment.clockEnd

/-- No call comes from an instant on before a signal throttles the limiter. -/
def SilentFrom (ends : ℕ) : LimiterSchedule → Prop
  | [] => True
  | (m, .call) :: later => m.wall < ends ∧ SilentFrom ends later
  | (_, .signal cooldown) :: later => cooldown.Throttles ∨ SilentFrom ends later

/-- So many calls at once, at an instant of the clock of the limits. -/
def rush (count : ℕ) (m : Moment) (wall : ℕ) : LimiterSchedule :=
  List.replicate count ({ m with wall }, .call)

theorem Timely.of_append {earlier later : LimiterSchedule} (h : Timely (earlier ++ later)) :
    Timely later :=
  ⟨(List.pairwise_append.mp h.ordered).2.1, fun e he ↦ h.running e (List.mem_append_right _ he)⟩

theorem Timely.of_cons {e : Moment × LimiterEvent} {later : LimiterSchedule}
    (h : Timely (e :: later)) :
    Timely later ∧ e.1.now < Moment.clockEnd ∧ ∀ e' ∈ later, e.1.wall ≤ e'.1.wall :=
  ⟨⟨(List.pairwise_cons.mp h.ordered).2, fun e' he ↦ h.running e' (List.mem_cons_of_mem _ he)⟩,
    h.running e List.mem_cons_self, fun e' he ↦ ((List.pairwise_cons.mp h.ordered).1 e' he).2⟩

/-- Calls may come at once after all that has come. -/
theorem Timely.rush {earlier : LimiterSchedule} {m : Moment} {e : LimiterEvent}
    (h : Timely (earlier ++ [(m, e)])) {wall : ℕ} (hwall : m.wall ≤ wall) (count : ℕ) :
    Timely (earlier ++ (m, e) :: rush count m wall) := by
  have hlast : ∀ x ∈ earlier ++ [(m, e)], x.1.now ≤ m.now ∧ x.1.wall ≤ m.wall := by
    intro x hx
    rcases List.mem_append.mp hx with hx | hx
    · exact (List.pairwise_append.mp h.ordered).2.2 x hx _ List.mem_cons_self
    · rw [List.mem_singleton.mp hx]
      exact ⟨Nat.le_refl _, Nat.le_refl _⟩
  rw [List.append_cons]
  refine ⟨List.pairwise_append.mpr ⟨h.ordered, List.pairwise_replicate.mpr
    (.inr ⟨Nat.le_refl _, Nat.le_refl _⟩), fun x hx y hy ↦ ?_⟩, fun x hx ↦ ?_⟩
  · rw [List.eq_of_mem_replicate hy]
    exact ⟨(hlast x hx).1, Nat.le_trans (hlast x hx).2 hwall⟩
  · rcases List.mem_append.mp hx with hx | hx
    · exact h.running x hx
    · rw [List.eq_of_mem_replicate hx]
      exact h.running (m, e) (List.mem_append_right _ List.mem_cons_self)

end LimiterSchedule

namespace RateLimiter

open LimiterSchedule (Timely SilentFrom rush)

/-- What an event does to a limiter; true for a call that is admitted. A call that would have to
wait is not. A signal crashes whose cooldown is too long for a bucket, and changes nothing. -/
def meet (l : RateLimiter) (m : Moment) : LimiterEvent → Bool × RateLimiter
  | .call =>
    match Admission.begun.step m l with
    | some (.done (.ok admitted), l) => (admitted, l)
    | some (_, l) => (false, l)
    | none => (false, l)
  | .signal cooldown =>
    match l.throttle cooldown m.wall with
    | .ok l => (false, l)
    | .error _ => (false, l)

/-- The number of calls of a schedule that are admitted. -/
def admitted : RateLimiter → LimiterSchedule → ℕ
  | _, [] => 0
  | l, (m, e) :: later => (l.meet m e).1.toNat + admitted (l.meet m e).2 later

/-- The limiter after a schedule. -/
def after : RateLimiter → LimiterSchedule → RateLimiter
  | l, [] => l
  | l, (m, e) :: later => after (l.meet m e).2 later

variable {l l' a b : RateLimiter} {full : TokenBucket} {t : Option Throttling} {m : Moment}
  {e : LimiterEvent} {now : ℕ}

theorem admitted_append (l : RateLimiter) (earlier later : LimiterSchedule) :
    l.admitted (earlier ++ later) = l.admitted earlier + (l.after earlier).admitted later := by
  induction earlier generalizing l with
  | nil => simp [admitted, after]
  | cons e earlier ih =>
    rw [List.cons_append, admitted, ih, admitted, after, Nat.add_assoc]

/-- A call that does not wait is one poll. -/
theorem meet_call (htimeout : l.settings.timeout = .zero) (hnow : m.now < Moment.clockEnd) :
    l.meet m .call = l.poll m.wall := by
  have hdeadline : Admission.deadline m.now l.settings.timeout = .ok m.now := by
    rw [htimeout]
    exact if_pos hnow
  have hnext : Admission.nextPoll? m.now m.now = none := if_pos (Nat.le_refl _)
  simp only [meet, Admission.step, hdeadline, Admission.poll, hnext]
  rcases l.poll m.wall with ⟨admitted | admitted, polled⟩ <;> rfl

/-- A signal that throttles forgets all that was before. -/
theorem meet_of_throttles {cooldown : Duration} (h : cooldown.Throttles) (l : RateLimiter)
    (m : Moment) :
    l.meet m (.signal cooldown) =
      (false,
        { l with
          bucket := Throttling.bucket ⟨m.wall, cooldown⟩
          cooldown := some cooldown
          restoreAt := some (Throttling.ends ⟨m.wall, cooldown⟩) }) := by
  have hzero : ¬ cooldown.isZero = true := by
    rw [Duration.isZero, decide_eq_true_eq]
    exact Nat.ne_of_gt h.1
  rw [meet, throttle_eq, if_neg hzero, if_neg (Nat.not_lt_of_le h.2)]

theorem meet_of_not_throttles {cooldown : Duration} (h : ¬ cooldown.Throttles) (l : RateLimiter)
    (m : Moment) : l.meet m (.signal cooldown) = (false, l) := by
  rw [meet, throttle_eq]
  by_cases hzero : cooldown.isZero = true
  · rw [if_pos hzero]
  · have hlong : TokenBucket.maxPeriod < cooldown.nanos := by
      rw [Duration.isZero, decide_eq_true_eq] at hzero
      exact Nat.lt_of_not_le fun hle ↦ h ⟨Nat.pos_of_ne_zero hzero, hle⟩
    rw [if_neg hzero, if_pos hlong]

theorem settings_meet (l : RateLimiter) (m : Moment) (e : LimiterEvent) :
    (l.meet m e).2.settings = l.settings := by
  cases e with
  | call =>
    rw [meet]
    rcases hstep : Admission.begun.step m l with - | ⟨turn, l'⟩
    · rfl
    · have hsettings := Admission.settings_of_step hstep
      split <;> simp_all
  | signal cooldown =>
    by_cases h : cooldown.Throttles
    · rw [meet_of_throttles h]
    · rw [meet_of_not_throttles h]

theorem fresh_refresh (l : RateLimiter) (now : ℕ) : (l.refresh now).fresh = l.fresh := by
  rw [refresh]
  split
  · split_ifs
    · rw [restore]
      split <;> rfl
    · rfl
  · rfl

/-! ### Debts -/

/-- The instant until which the tokens of a limiter are spent for who asks at some time. While it is
throttled, that is too far away for anyone. -/
def debt (l : RateLimiter) (now : ℕ) : ℕ :=
  match l.restoreAt with
  | some ends =>
    if now < ends then ends + l.fresh.period * (l.fresh.burst + 1) else now + l.fresh.period
  | none => l.bucket.spentUntil.getD (now + l.fresh.period)

/-- The limiter is under a throttling, or has a bucket of its quota. -/
structure Metered (full : TokenBucket) (t : Option Throttling) (l : RateLimiter) : Prop
    extends Under full t l where
  quota : t = none → ∃ spentUntil, l.bucket = { full with spentUntil }

namespace Metered

variable {t' : Throttling} {later : ℕ}

theorem debt_of_none (h : l.Metered full none) :
    l.debt now = l.bucket.spentUntil.getD (now + full.period) := by
  simp only [debt, h.restoreAt, Option.map_none, h.fresh]

theorem debt_of_lt (h : l.Metered full (some t')) (hnow : now < t'.ends) :
    l.debt now = t'.ends + full.period * (full.burst + 1) := by
  simp only [debt, h.restoreAt, Option.map_some, if_pos hnow, h.fresh]

theorem debt_of_le (h : l.Metered full (some t')) (hnow : t'.ends ≤ now) :
    l.debt now = now + full.period := by
  simp only [debt, h.restoreAt, Option.map_some, if_neg (Nat.not_lt_of_le hnow), h.fresh]

/-- Who owes at most a refill is under no throttling any more. -/
theorem ends_le (h : l.Metered full (some t'))
    (hdebt : l.debt now ≤ now + full.period * full.burst) : t'.ends ≤ now := by
  refine Nat.le_of_not_lt fun hlt ↦ ?_
  rw [h.debt_of_lt hlt, Nat.mul_succ] at hdebt
  omega

/-- Who owes more than a refill is turned away. -/
theorem poll_of_lt_debt (h : l.Metered full t) (hburst : 1 ≤ full.burst)
    (hdebt : now + full.period * full.burst < l.debt now) : l.poll now = (false, l) := by
  cases t with
  | none =>
    obtain ⟨spent, hbucket⟩ := h.quota rfl
    have hnone : l.bucket.take? now = none := by
      rw [h.debt_of_none, hbucket] at hdebt
      rw [hbucket]
      exact if_neg (Nat.not_le_of_lt (Nat.lt_sub_of_add_lt hdebt))
    simp only [poll, refresh_of_none h.restoreAt, hnone]
  | some t' =>
    refine h.toUnder.poll_of_lt (Nat.lt_of_not_le fun hends ↦ ?_)
    rw [h.debt_of_le hends] at hdebt
    have := Nat.le_mul_of_pos_right full.period hburst
    omega

/-- Who owes at most a refill is admitted, and owes a token more. -/
theorem poll_of_debt_le (h : l.Metered full t) (hspent : full.spentUntil = none)
    (hdebt : l.debt now ≤ now + full.period * full.burst) :
    (l.poll now).1 = true ∧ (l.poll now).2.Metered full none ∧
      ∀ later, (l.poll now).2.debt later = max (l.debt now) now + full.period := by
  obtain ⟨hunder, hbucket⟩ : (l.refresh now).Metered full none ∧
      (l.refresh now).bucket.spentUntil.getD (now + full.period) = l.debt now := by
    cases t with
    | none =>
      rw [refresh_of_none h.restoreAt]
      exact ⟨h, h.debt_of_none.symm⟩
    | some t' =>
      have hends := h.ends_le hdebt
      have hwhole := h.restore_bucket h.restore_fst
      rw [h.toUnder.refresh_of_le hends, hwhole, hspent, h.debt_of_le hends]
      exact ⟨⟨h.restore, fun _ ↦ ⟨none, hwhole.trans (by rw [← hspent])⟩⟩, rfl⟩
  obtain ⟨spent, hspent⟩ := hunder.quota rfl
  rw [hspent] at hbucket
  have htake : (l.refresh now).bucket.take? now =
      some { full with spentUntil := some (max (l.debt now) now + full.period) } := by
    rw [hspent, TokenBucket.take?, hbucket]
    exact if_pos (Nat.sub_le_iff_le_add.mpr hdebt)
  simp only [poll, htake, true_and]
  refine ⟨⟨⟨hunder.fresh, hunder.cooldown, hunder.restoreAt, by simp⟩, fun _ ↦ ⟨_, rfl⟩⟩, ?_⟩
  intro later
  simp only [debt, hunder.restoreAt, Option.map_none, Option.getD_some]

/-- Who was admitted would owe no less later. -/
theorem debt_mono (h : l.Metered full t)
    (hdebt : l.debt now ≤ now + full.period * full.burst) (hlater : now ≤ later) :
    l.debt now ≤ l.debt later := by
  cases t with
  | none =>
    rw [h.debt_of_none, h.debt_of_none]
    cases l.bucket.spentUntil with
    | none => exact Nat.add_le_add_right hlater _
    | some spent => exact Nat.le_refl _
  | some t' =>
    have hends := h.ends_le hdebt
    rw [h.debt_of_le hends, h.debt_of_le (Nat.le_trans hends hlater)]
    exact Nat.add_le_add_right hlater _

/-- Who owes no more than a fresh limiter never owes more than one. -/
theorem debt_le_of_recovered (h : l.Metered full t) (hburst : 1 ≤ full.burst)
    (hdebt : l.debt now ≤ now + full.period) (hlater : now ≤ later) :
    l.debt later ≤ later + full.period := by
  have hone := Nat.le_mul_of_pos_right full.period hburst
  cases t with
  | none =>
    rw [h.debt_of_none] at hdebt ⊢
    cases hspent : l.bucket.spentUntil with
    | none => exact Nat.le_refl _
    | some spent =>
      rw [hspent, Option.getD_some] at hdebt
      rw [Option.getD_some]
      omega
  | some t' =>
    have hends := h.ends_le (Nat.le_trans hdebt (Nat.add_le_add_left hone now))
    exact Nat.le_of_eq (h.debt_of_le (Nat.le_trans hends hlater))

/-- Who was turned away owes the same later, unless a throttling is over by then. -/
theorem debt_of_refused (h : l.Metered full t) (hburst : 1 ≤ full.burst)
    (hdebt : now + full.period * full.burst < l.debt now) (later : ℕ) :
    l.debt later = l.debt now ∨
      now + full.period * (full.burst + 1) < l.debt now ∧
        l.debt now ≤ later + full.period * (full.burst + 1) ∧
        l.debt later = later + full.period := by
  have hone := Nat.le_mul_of_pos_right full.period hburst
  cases t with
  | none =>
    rw [h.debt_of_none] at hdebt ⊢
    rw [h.debt_of_none]
    cases hspent : l.bucket.spentUntil with
    | none =>
      rw [hspent, Option.getD_none] at hdebt
      omega
    | some spent => exact .inl rfl
  | some t' =>
    have hends : now < t'.ends := by
      refine Nat.lt_of_not_le fun hle ↦ ?_
      rw [h.debt_of_le hle] at hdebt
      omega
    rw [h.debt_of_lt hends]
    obtain hlt | hle := Nat.lt_or_ge later t'.ends
    · exact .inl (h.debt_of_lt hlt)
    · exact .inr ⟨Nat.add_lt_add_right hends _, Nat.add_le_add_right hle _, h.debt_of_le hle⟩

/-- A signal that throttles leaves a throttling that begins now. -/
theorem meet {cooldown : Duration} (h : l.Metered full t) (hcooldown : cooldown.Throttles)
    (m : Moment) : (l.meet m (.signal cooldown)).2.Metered full (some ⟨m.wall, cooldown⟩) := by
  rw [meet_of_throttles hcooldown]
  exact ⟨⟨h.fresh, rfl, rfl, by simp⟩, by simp⟩

end Metered

/-! ### Two limiters -/

/-- A limiter owes at most so many tokens more than another one, from now on. -/
structure Trails (full : TokenBucket) (k now : ℕ) (a b : RateLimiter) : Prop where
  settings : a.settings = b.settings
  metered : ∃ t, a.Metered full t
  metered' : ∃ t, b.Metered full t
  debt : ∀ later, now ≤ later → a.debt later ≤ max (b.debt later) later + k * full.period

/-- A signal that throttles leaves nothing of what told two limiters apart. -/
theorem meet_congr {cooldown : Duration} (hcooldown : cooldown.Throttles) (m : Moment)
    (hsettings : a.settings = b.settings) (hfresh : a.fresh = b.fresh) :
    a.meet m (.signal cooldown) = b.meet m (.signal cooldown) := by
  rw [meet_of_throttles hcooldown, meet_of_throttles hcooldown, hsettings, hfresh]

namespace Trails

variable {k : ℕ}

theorem refl (h : l.Metered full t) (k now : ℕ) : Trails full k now l l :=
  ⟨rfl, ⟨t, h⟩, ⟨t, h⟩, fun _ _ ↦ by omega⟩

/-- A poll changes the distance by the call that it admits to one of the two. -/
theorem poll (h : Trails full k now a b) (hburst : 1 ≤ full.burst)
    (hspent : full.spentUntil = none) {wall : ℕ} (hwall : now ≤ wall) :
    ∃ k', Trails full k' wall (a.poll wall).2 (b.poll wall).2 ∧
      (b.poll wall).1.toNat + k' ≤ (a.poll wall).1.toNat + k := by
  obtain ⟨t, ha⟩ := h.metered
  obtain ⟨u, hb⟩ := h.metered'
  have hdebt := h.debt wall hwall
  have hsettings : (a.poll wall).2.settings = (b.poll wall).2.settings := by
    rw [settings_poll, settings_poll, h.settings]
  have hone := Nat.le_mul_of_pos_right full.period hburst
  obtain haroom | haroom := (Nat.lt_or_ge (wall + full.period * full.burst) (a.debt wall)).symm <;>
    obtain hbroom | hbroom :=
      (Nat.lt_or_ge (wall + full.period * full.burst) (b.debt wall)).symm
  · obtain ⟨hatrue, hameter, hadebt⟩ := ha.poll_of_debt_le hspent haroom
    obtain ⟨hbtrue, hbmeter, hbdebt⟩ := hb.poll_of_debt_le hspent hbroom
    rw [hatrue, hbtrue]
    refine ⟨k, ⟨hsettings, ⟨_, hameter⟩, ⟨_, hbmeter⟩, fun later _ ↦ ?_⟩, Nat.le_refl _⟩
    rw [hadebt, hbdebt]
    omega
  · obtain ⟨hatrue, hameter, hadebt⟩ := ha.poll_of_debt_le hspent haroom
    have hbfalse := hb.poll_of_lt_debt hburst hbroom
    rw [hbfalse] at hsettings ⊢
    rw [hatrue]
    refine ⟨k + 1, ⟨hsettings, ⟨_, hameter⟩, ⟨_, hb⟩, fun later hlater ↦ ?_⟩,
      by simp only [Bool.toNat_true, Bool.toNat_false]; omega⟩
    have hthen := h.debt later (Nat.le_trans hwall hlater)
    have hmono := ha.debt_mono haroom hlater
    show (a.poll wall).2.debt later ≤ max (b.debt later) later + _
    rw [hadebt, Nat.succ_mul]
    obtain hsame | ⟨-, -, hover⟩ := hb.debt_of_refused hburst hbroom later <;> omega
  · have hafalse := ha.poll_of_lt_debt hburst haroom
    obtain ⟨hbtrue, hbmeter, hbdebt⟩ := hb.poll_of_debt_le hspent hbroom
    rw [hafalse] at hsettings ⊢
    rw [hbtrue]
    obtain ⟨k, rfl⟩ : ∃ k', k = k' + 1 := by
      refine Nat.exists_eq_succ_of_ne_zero fun hzero ↦ ?_
      rw [hzero, Nat.zero_mul] at hdebt
      omega
    refine ⟨k, ⟨hsettings, ⟨_, ha⟩, ⟨_, hbmeter⟩, fun later hlater ↦ ?_⟩,
      by simp only [Bool.toNat_true, Bool.toNat_false]; omega⟩
    rw [Nat.succ_mul] at hdebt
    show a.debt later ≤ max ((b.poll wall).2.debt later) later + _
    rw [hbdebt]
    obtain hsame | ⟨hfar, -, hover⟩ := ha.debt_of_refused hburst haroom later
    · omega
    · -- a throttling that ends later leaves room for two calls
      have hperiod : full.period ≤ k * full.period := by
        refine Nat.le_mul_of_pos_left _ (Nat.pos_of_ne_zero fun hzero ↦ ?_)
        rw [hzero, Nat.zero_mul] at hdebt
        rw [Nat.mul_succ] at hfar
        omega
      omega
  · rw [ha.poll_of_lt_debt hburst haroom, hb.poll_of_lt_debt hburst hbroom]
    exact ⟨k, ⟨h.settings, ⟨_, ha⟩, ⟨_, hb⟩, fun later hlater ↦
      h.debt later (Nat.le_trans hwall hlater)⟩, Nat.le_refl _⟩

/-- An event changes the distance by the call that it admits to one of the two, and a signal leaves
none. -/
theorem meet (h : Trails full k now a b) (hburst : 1 ≤ full.burst)
    (hspent : full.spentUntil = none) (htimeout : b.settings.timeout = .zero)
    (hwall : now ≤ m.wall) (hnow : m.now < Moment.clockEnd) (e : LimiterEvent) :
    ∃ k', Trails full k' m.wall (a.meet m e).2 (b.meet m e).2 ∧
      (b.meet m e).1.toNat + k' ≤ (a.meet m e).1.toNat + k := by
  cases e with
  | call =>
    rw [meet_call htimeout hnow, meet_call (h.settings ▸ htimeout) hnow]
    exact h.poll hburst hspent hwall
  | signal cooldown =>
    by_cases hcooldown : cooldown.Throttles
    · obtain ⟨t, ha⟩ := h.metered
      obtain ⟨u, hb⟩ := h.metered'
      rw [meet_congr hcooldown m h.settings (ha.fresh.trans hb.fresh.symm)]
      exact ⟨0, .refl (hb.meet hcooldown m) 0 m.wall, by simp [meet_of_throttles hcooldown]⟩
    · rw [meet_of_not_throttles hcooldown, meet_of_not_throttles hcooldown]
      exact ⟨k, ⟨h.settings, h.metered, h.metered', fun later hlater ↦
        h.debt later (Nat.le_trans hwall hlater)⟩, Nat.le_refl _⟩

/-- The other limiter admits at most so many calls more. -/
theorem admitted_le (h : Trails full k now a b) (hburst : 1 ≤ full.burst)
    (hspent : full.spentUntil = none) (htimeout : b.settings.timeout = .zero)
    {later : LimiterSchedule} (htimely : later.Timely) (hlater : ∀ e ∈ later, now ≤ e.1.wall) :
    b.admitted later ≤ a.admitted later + k := by
  induction later generalizing k now a b with
  | nil => exact Nat.zero_le _
  | cons e later ih =>
    obtain ⟨m, e⟩ := e
    obtain ⟨htail, hnow, hfrom⟩ := htimely.of_cons
    obtain ⟨k', htrails, hcount⟩ :=
      h.meet (m := m) hburst hspent htimeout (hlater _ List.mem_cons_self) hnow e
    have hrest := ih htrails ((b.settings_meet m e).symm ▸ htimeout) htail hfrom
    show (b.meet m e).1.toNat + (b.meet m e).2.admitted later ≤
      (a.meet m e).1.toNat + (a.meet m e).2.admitted later + k
    omega

end Trails

/-- While nobody calls who could be admitted, a throttled limiter admits no more than any other. -/
theorem admitted_le_of_silent {t' : Throttling} (ha : a.fresh = full)
    (hb : b.Under full (some t')) (hsettings : a.settings = b.settings)
    (htimeout : b.settings.timeout = .zero) {later : LimiterSchedule} (htimely : later.Timely)
    (hsilent : SilentFrom t'.ends later) : b.admitted later ≤ a.admitted later := by
  induction later generalizing a with
  | nil => exact Nat.le_refl _
  | cons e later ih =>
    obtain ⟨m, e⟩ := e
    obtain ⟨htail, hnow, -⟩ := htimely.of_cons
    have hsame := (a.settings_meet m e).trans hsettings
    show (b.meet m e).1.toNat + (b.meet m e).2.admitted later ≤
      (a.meet m e).1.toNat + (a.meet m e).2.admitted later
    cases e with
    | call =>
      have hfresh : (a.meet m .call).2.fresh = full := by
        rw [meet_call (hsettings ▸ htimeout) hnow, (a.poll_snd_fields m.wall).1, fresh_refresh, ha]
      rw [meet_call htimeout hnow, hb.poll_of_lt hsilent.1]
      have hrest := ih hfresh hsame htail hsilent.2
      simp only [Bool.toNat_false]
      omega
    | signal cooldown =>
      by_cases hcooldown : cooldown.Throttles
      · exact Nat.le_of_eq (by rw [meet_congr hcooldown m hsettings (ha.trans hb.fresh.symm)])
      · rw [meet_of_not_throttles hcooldown, meet_of_not_throttles hcooldown]
        exact Nat.add_le_add_left (ih ha hsettings htail (hsilent.resolve_left hcooldown)) _

/-! ### What a limiter may owe -/

/-- No limiter owes more than a refill and a token, unless it is throttled. -/
def Afloat (full : TokenBucket) (now : ℕ) (l : RateLimiter) : Prop :=
  ∃ t, l.Metered full t ∧
    (t = none → ∀ later, now ≤ later → l.debt later ≤ later + full.period * (full.burst + 1))

theorem Afloat.of_new {settings : LimiterSettings} (hvalid : settings.invalid? = none)
    (hnew : new settings = .ok l) : l.Afloat l.fresh 0 := by
  have hspent := (fresh_of_new hvalid hnew).2.2
  have hstart := (new_eq hnew).2
  have hbucket : l.bucket = l.fresh := by rw [hstart]
  have hrestoreAt : l.restoreAt = none := by rw [hstart]
  have hcooldown : l.cooldown = none := by rw [hstart]
  refine ⟨none, ⟨⟨rfl, hcooldown, hrestoreAt, by simp⟩, fun _ ↦ ⟨none, ?_⟩⟩, fun _ later _ ↦ ?_⟩
  · rw [hbucket, ← hspent]
  · simp only [debt, hrestoreAt, hbucket, hspent, Option.getD_none, Nat.mul_succ]
    omega

theorem Afloat.meet (h : l.Afloat full now) (hburst : 1 ≤ full.burst)
    (hspent : full.spentUntil = none) (htimeout : l.settings.timeout = .zero)
    (hwall : now ≤ m.wall) (hnow : m.now < Moment.clockEnd) (e : LimiterEvent) :
    (l.meet m e).2.Afloat full m.wall := by
  obtain ⟨t, hmetered, hdebt⟩ := h
  cases e with
  | call =>
    rw [meet_call htimeout hnow]
    obtain hroom | hroom :=
      (Nat.lt_or_ge (m.wall + full.period * full.burst) (l.debt m.wall)).symm
    · obtain ⟨-, hnext, howed⟩ := hmetered.poll_of_debt_le hspent hroom
      refine ⟨none, hnext, fun _ later hlater ↦ ?_⟩
      rw [howed, Nat.mul_succ]
      omega
    · rw [hmetered.poll_of_lt_debt hburst hroom]
      exact ⟨t, hmetered, fun ht later hlater ↦ hdebt ht later (Nat.le_trans hwall hlater)⟩
  | signal cooldown =>
    by_cases hcooldown : cooldown.Throttles
    · exact ⟨_, hmetered.meet hcooldown m, fun ht ↦ nomatch ht⟩
    · rw [meet_of_not_throttles hcooldown]
      exact ⟨t, hmetered, fun ht later hlater ↦ hdebt ht later (Nat.le_trans hwall hlater)⟩

theorem Afloat.after (h : l.Afloat full now) (hburst : 1 ≤ full.burst)
    (hspent : full.spentUntil = none) (htimeout : l.settings.timeout = .zero)
    {earlier : LimiterSchedule} (htimely : Timely (earlier ++ [(m, e)]))
    (hearlier : ∀ e ∈ earlier, now ≤ e.1.wall) (hwall : now ≤ m.wall) :
    (l.after earlier).Afloat full m.wall ∧ (l.after earlier).settings = l.settings := by
  induction earlier generalizing l now with
  | nil =>
    obtain ⟨t, hmetered, hdebt⟩ := h
    exact ⟨⟨t, hmetered, fun ht later hlater ↦ hdebt ht later (Nat.le_trans hwall hlater)⟩, rfl⟩
  | cons first earlier ih =>
    obtain ⟨m', e'⟩ := first
    obtain ⟨htail, hnow, hfrom⟩ := htimely.of_cons
    have hnext := h.meet (m := m') hburst hspent htimeout (hearlier _ List.mem_cons_self) hnow e'
    have hsettings := l.settings_meet m' e'
    obtain ⟨hafloat, hsame⟩ := ih hnext (hsettings.symm ▸ htimeout) htail
      (fun e he ↦ hfrom e (List.mem_append_left _ he)) (hfrom (m, e) (by simp))
    exact ⟨hafloat, hsame.trans hsettings⟩

/-! ### Calls at once -/

theorem admitted_le_length (l : RateLimiter) (s : LimiterSchedule) : l.admitted s ≤ s.length := by
  induction s generalizing l with
  | nil => exact Nat.le_refl _
  | cons e s ih =>
    have hrest := ih (l.meet e.1 e.2).2
    have hone := Bool.toNat_le (l.meet e.1 e.2).1
    show (l.meet e.1 e.2).1.toNat + (l.meet e.1 e.2).2.admitted s ≤ s.length + 1
    omega

/-- Calls at once are all admitted if what they cost is at most a refill away. -/
theorem Metered.admitted_rush (h : l.Metered full t) (hburst : 1 ≤ full.burst)
    (hspent : full.spentUntil = none) (htimeout : l.settings.timeout = .zero)
    (hnow : m.now < Moment.clockEnd) (count wall : ℕ) :
    l.admitted (rush (count + 1) m wall) = count + 1 ↔
      max (l.debt wall) wall + count * full.period ≤ wall + full.period * full.burst := by
  have hcall : ∀ l : RateLimiter, l.settings.timeout = .zero →
      l.meet { m with wall } .call = l.poll wall := fun l htimeout ↦ meet_call htimeout hnow
  induction count generalizing l t with
  | zero =>
    show (l.meet { m with wall } .call).1.toNat + 0 = 1 ↔ _
    rw [hcall l htimeout]
    obtain hroom | hroom := (Nat.lt_or_ge (wall + full.period * full.burst) (l.debt wall)).symm
    · rw [(h.poll_of_debt_le hspent hroom).1]
      exact ⟨fun _ ↦ by omega, fun _ ↦ rfl⟩
    · simp only [h.poll_of_lt_debt hburst hroom, Bool.toNat_false]
      omega
  | succ count ih =>
    show (l.meet { m with wall } .call).1.toNat +
      (l.meet { m with wall } .call).2.admitted (rush (count + 1) m wall) = count + 2 ↔ _
    rw [hcall l htimeout]
    obtain hroom | hroom := (Nat.lt_or_ge (wall + full.period * full.burst) (l.debt wall)).symm
    · obtain ⟨htrue, hnext, howed⟩ := h.poll_of_debt_le hspent hroom
      have hiff := ih hnext ((l.settings_poll wall).symm ▸ htimeout)
      rw [howed] at hiff
      simp only [htrue, Bool.toNat_true]
      rw [Nat.succ_mul count]
      omega
    · have hrest := l.admitted_le_length (rush (count + 1) m wall)
      rw [rush, List.length_replicate, ← rush] at hrest
      simp only [h.poll_of_lt_debt hburst hroom, Bool.toNat_false]
      omega

/-- A limiter that admits its whole quota at once owes no more than a fresh one. -/
theorem Metered.admitted_rush_burst (h : l.Metered full t) (hburst : 1 ≤ full.burst)
    (hspent : full.spentUntil = none) (htimeout : l.settings.timeout = .zero)
    (hnow : m.now < Moment.clockEnd) (wall : ℕ) :
    l.admitted (rush full.burst m wall) = full.burst ↔ l.debt wall ≤ wall + full.period := by
  obtain ⟨count, hcount⟩ : ∃ count, full.burst = count + 1 := ⟨full.burst - 1, by omega⟩
  have hiff := h.admitted_rush hburst hspent htimeout hnow count wall
  rw [hcount, hiff, hcount, Nat.mul_comm full.period, Nat.succ_mul]
  omega

/-! ### What a signal forgets -/

variable {cooldown : Duration}

/-- A signal forgets the tokens that were spent, and a throttling that would have ended later. -/
theorem Afloat.trails_signal (h : l.Afloat full m.wall) (hcooldown : cooldown.Throttles) {n : ℕ}
    (hends : ∀ ends, l.restoreAt = some ends →
      ends ≤ m.wall + cooldown.nanos + n * full.period) :
    Trails full (full.burst + n) m.wall l (l.meet m (.signal cooldown)).2 := by
  obtain ⟨t, hmetered, hdebt⟩ := h
  have hthrottled := hmetered.meet hcooldown m
  refine ⟨(l.settings_meet m _).symm, ⟨t, hmetered⟩, ⟨_, hthrottled⟩, fun later hlater ↦ ?_⟩
  have hquota : (full.burst + n) * full.period = full.period * full.burst + n * full.period := by
    rw [Nat.add_mul, Nat.mul_comm full.burst]
  have hover : l.debt later ≤
      max later (m.wall + cooldown.nanos) + full.period * (full.burst + 1) + n * full.period := by
    cases t with
    | none => have := hdebt rfl later hlater; omega
    | some t' =>
      have hlong := hends _ hmetered.restoreAt
      rw [Nat.mul_succ]
      obtain hlt | hle := Nat.lt_or_ge later t'.ends
      · rw [hmetered.debt_of_lt hlt, Nat.mul_succ]
        omega
      · rw [hmetered.debt_of_le hle]
        omega
  rw [hquota]
  rw [Nat.mul_succ] at hover
  obtain hlt | hle := Nat.lt_or_ge later (Throttling.ends ⟨m.wall, cooldown⟩)
  · rw [hthrottled.debt_of_lt hlt, Nat.mul_succ]
    simp only [Throttling.ends] at hlt ⊢
    omega
  · rw [hthrottled.debt_of_le hle]
    simp only [Throttling.ends] at hle
    omega

/-- A signal forgets nothing of a limiter that owes no more than a fresh one when it ends. -/
theorem Afloat.trails_signal_of_recovered (h : l.Afloat full m.wall) (hburst : 1 ≤ full.burst)
    (hcooldown : cooldown.Throttles)
    (hrecovered : l.debt (m.wall + cooldown.nanos) ≤ m.wall + cooldown.nanos + full.period) :
    Trails full 0 m.wall l (l.meet m (.signal cooldown)).2 := by
  obtain ⟨t, hmetered, hdebt⟩ := h
  have hthrottled := hmetered.meet hcooldown m
  refine ⟨(l.settings_meet m _).symm, ⟨t, hmetered⟩, ⟨_, hthrottled⟩, fun later hlater ↦ ?_⟩
  rw [Nat.zero_mul, Nat.add_zero]
  refine Nat.le_trans ?_ (Nat.le_max_left _ _)
  obtain hlt | hle := Nat.lt_or_ge later (Throttling.ends ⟨m.wall, cooldown⟩)
  · rw [hthrottled.debt_of_lt hlt]
    simp only [Throttling.ends] at hlt ⊢
    cases t with
    | none =>
      exact Nat.le_trans (hdebt rfl later hlater) (Nat.add_le_add_right (Nat.le_of_lt hlt) _)
    | some t' =>
      have hone := Nat.le_mul_of_pos_right full.period hburst
      have hends := hmetered.ends_le (Nat.le_trans hrecovered (Nat.add_le_add_left hone _))
      obtain hlt' | hle' := Nat.lt_or_ge later t'.ends
      · rw [hmetered.debt_of_lt hlt']
        exact Nat.add_le_add_right hends _
      · rw [hmetered.debt_of_le hle', Nat.mul_succ]
        omega
  · rw [hthrottled.debt_of_le hle]
    exact hmetered.debt_le_of_recovered hburst hrecovered hle

/-! ### What one more signal does -/

/-- One more signal holds calls back for its cooldown, and lets more of them in only if it makes the
limiter forget. A schedule of calls that do not wait and of signals comes to a new limiter; at some
moment there is one more signal, or not. If its cooldown is too long for a bucket, it changes
nothing. Otherwise no more calls are admitted with it up to any later event, as long as none comes
between the end of its cooldown and the next signal. However the schedule goes on, no more calls are
admitted with it if and only if without it the limiter, left alone, would have recovered by the end
of the cooldown, so that it would admit its whole quota at once. In any case no more calls are
admitted in addition than the quota has, and one for each token that would come back in the time by
which a throttling in force is cut short. -/
theorem signals_hold_back {settings : LimiterSettings} {new : RateLimiter}
    (hvalid : settings.invalid? = none) (htimeout : settings.timeout = .zero)
    (hnew : RateLimiter.new settings = .ok new) (earlier : LimiterSchedule) (m : Moment)
    (cooldown : Duration) (hearlier : Timely (earlier ++ [(m, .signal cooldown)]))
    (hcooldown : 0 < cooldown.nanos) :
    (TokenBucket.maxPeriod < cooldown.nanos → ∀ later,
      new.admitted (earlier ++ (m, .signal cooldown) :: later) =
        new.admitted (earlier ++ later)) ∧
    (cooldown.nanos ≤ TokenBucket.maxPeriod →
      (∀ later, Timely (earlier ++ (m, .signal cooldown) :: later) →
        SilentFrom (m.wall + cooldown.nanos) later →
        new.admitted (earlier ++ (m, .signal cooldown) :: later) ≤
          new.admitted (earlier ++ later)) ∧
      ((∀ later, Timely (earlier ++ (m, .signal cooldown) :: later) →
        new.admitted (earlier ++ (m, .signal cooldown) :: later) ≤
          new.admitted (earlier ++ later)) ↔
        (new.after earlier).admitted
            (rush settings.limitForPeriod m (m.wall + cooldown.nanos)) =
          settings.limitForPeriod) ∧
      ∀ later n, Timely (earlier ++ (m, .signal cooldown) :: later) →
        (∀ ends, (new.after earlier).restoreAt = some ends →
          ends ≤ m.wall + cooldown.nanos + n * new.fresh.period) →
        new.admitted (earlier ++ (m, .signal cooldown) :: later) ≤
          new.admitted (earlier ++ later) + settings.limitForPeriod + n) := by
  obtain ⟨hlimit, hburst, hspent⟩ := fresh_of_new hvalid hnew
  have hquota : new.settings.timeout = .zero := by rw [(new_eq hnew).2, htimeout]
  obtain ⟨hafloat, hsettings⟩ := (Afloat.of_new hvalid hnew).after hburst hspent hquota hearlier
    (fun _ _ ↦ Nat.zero_le _) (Nat.zero_le _)
  have hnow : m.now < Moment.clockEnd := hearlier.running (m, .signal cooldown) (by simp)
  have hwithout : ∀ later, new.admitted (earlier ++ later) =
      new.admitted earlier + (new.after earlier).admitted later := new.admitted_append earlier
  generalize new.after earlier = l at hafloat hsettings hwithout ⊢
  have hwith : ∀ later, new.admitted (earlier ++ (m, .signal cooldown) :: later) =
      new.admitted earlier + (l.meet m (.signal cooldown)).2.admitted later := by
    intro later
    have hfalse : (l.meet m (.signal cooldown)).1 = false := by
      by_cases h : cooldown.Throttles
      · rw [meet_of_throttles h]
      · rw [meet_of_not_throttles h]
    rw [hwithout, admitted, hfalse, Bool.toNat_false, Nat.zero_add]
  have htail : ∀ {later}, Timely (earlier ++ (m, .signal cooldown) :: later) →
      Timely later ∧ ∀ e ∈ later, m.wall ≤ e.1.wall := fun h ↦
    ⟨h.of_append.of_cons.1, h.of_append.of_cons.2.2⟩
  have hzero : l.settings.timeout = .zero := by rw [hsettings, hquota]
  have hzero' := (l.settings_meet m (.signal cooldown)).symm ▸ hzero
  refine ⟨fun hlong later ↦ ?_, fun hshort ↦ ?_⟩
  · rw [hwith, hwithout, meet_of_not_throttles fun h ↦ Nat.not_lt_of_le h.2 hlong]
  have hthrottles : cooldown.Throttles := ⟨hcooldown, hshort⟩
  obtain ⟨t, hmetered, -⟩ := id hafloat
  have hthrottled := hmetered.meet hthrottles m
  refine ⟨fun later htimely hsilent ↦ ?_, ⟨fun hnever ↦ ?_, fun hwhole later htimely ↦ ?_⟩,
    fun later n htimely hends ↦ ?_⟩
  · rw [hwith, hwithout]
    exact Nat.add_le_add_left (admitted_le_of_silent hmetered.fresh hthrottled.toUnder
      (l.settings_meet m _).symm hzero' (htail htimely).1 hsilent) _
  · have hwhole : (l.meet m (.signal cooldown)).2.admitted
        (rush new.fresh.burst m (m.wall + cooldown.nanos)) = new.fresh.burst :=
      (hthrottled.admitted_rush_burst hburst hspent hzero' hnow _).mpr
        (Nat.le_of_eq (hthrottled.debt_of_le (Nat.le_refl _)))
    have hrush := hnever _ (hearlier.rush (Nat.le_add_right m.wall cooldown.nanos) new.fresh.burst)
    have hlength := l.admitted_le_length (rush new.fresh.burst m (m.wall + cooldown.nanos))
    rw [hwith, hwithout, hwhole] at hrush
    rw [rush, List.length_replicate, ← rush] at hlength
    rw [← hlimit]
    omega
  · rw [hwith, hwithout]
    rw [← hlimit, hmetered.admitted_rush_burst hburst hspent hzero hnow] at hwhole
    have htrails := hafloat.trails_signal_of_recovered hburst hthrottles hwhole
    exact Nat.add_le_add_left
      (htrails.admitted_le hburst hspent hzero' (htail htimely).1 (htail htimely).2) _
  · have hle := (hafloat.trails_signal hthrottles hends).admitted_le hburst hspent hzero'
      (htail htimely).1 (htail htimely).2
    rw [hwith, hwithout, ← hlimit]
    omega

/-- Two calls a second, without waiting. -/
def impatient : LimiterSettings := { limitForPeriod := 2 }

/-- What the clocks say after some milliseconds. -/
def atMillis (millis : ℕ) : Moment :=
  let passed := (Duration.ofMillis millis).nanos
  { now := passed, wall := passed : Clock }.moment

/-- The quota is spent when the provider asks to wait a second. By then all of it would be back: the
signal lets nothing in, whatever comes. -/
theorem signals_hold_back_recovered :
    impatient.invalid? = none ∧ impatient.timeout = .zero ∧
      ∃ new, RateLimiter.new impatient = .ok new ∧
      Timely ([(atMillis 0, .call), (atMillis 0, .call)] ++ [(atMillis 0, .signal (.ofSecs 1))]) ∧
      0 < (Duration.ofSecs 1).nanos ∧
      ∀ next, Timely ([(atMillis 0, .call), (atMillis 0, .call)] ++
          (atMillis 0, .signal (.ofSecs 1)) :: next) →
        new.admitted ([(atMillis 0, .call), (atMillis 0, .call)] ++
            (atMillis 0, .signal (.ofSecs 1)) :: next) ≤
          new.admitted ([(atMillis 0, .call), (atMillis 0, .call)] ++ next) := by
  have htimely : Timely
      ([(atMillis 0, .call), (atMillis 0, .call)] ++ [(atMillis 0, .signal (.ofSecs 1))]) :=
    ⟨by decide, by decide⟩
  obtain ⟨-, hheld⟩ := @signals_hold_back impatient _ rfl rfl rfl _ (atMillis 0)
    (.ofSecs 1) htimely (by decide)
  exact ⟨rfl, rfl, _, rfl, htimely, by decide, (hheld (by decide)).2.1.mpr rfl⟩

/-- A call an hour, without waiting. -/
def hourly : LimiterSettings := { limitForPeriod := 1, refreshPeriod := .ofSecs 3600 }

/-- One more signal may let calls in. A provider asks to wait five milliseconds, and who calls after
that finds the quota whole although it was spent. A provider asks to wait a minute and then to wait
a second, and who calls after the second is admitted. -/
theorem signal_raises_traffic :
    hourly.invalid? = none ∧ hourly.timeout = .zero ∧
      ∃ new, RateLimiter.new hourly = .ok new ∧
      (Timely [(atMillis 0, .call), (atMillis 0, .signal (.ofMillis 5)), (atMillis 40, .call)] ∧
        new.admitted [(atMillis 0, .call), (atMillis 40, .call)] = 1 ∧
        new.admitted [(atMillis 0, .call), (atMillis 0, .signal (.ofMillis 5)),
          (atMillis 40, .call)] = 2) ∧
      Timely [(atMillis 0, .signal (.ofSecs 60)), (atMillis 0, .signal (.ofSecs 1)),
        (atMillis 1000, .call)] ∧
      new.admitted [(atMillis 0, .signal (.ofSecs 60)), (atMillis 1000, .call)] = 0 ∧
      new.admitted [(atMillis 0, .signal (.ofSecs 60)), (atMillis 0, .signal (.ofSecs 1)),
        (atMillis 1000, .call)] = 1 :=
  ⟨rfl, rfl, _, rfl, ⟨⟨by decide, by decide⟩, rfl, rfl⟩, ⟨by decide, by decide⟩, rfl, rfl⟩

end RateLimiter

end Courier

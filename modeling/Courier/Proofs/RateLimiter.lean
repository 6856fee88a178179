import Courier.Clock
import Courier.RateLimiter
import Mathlib.Data.Nat.Notation
import Mathlib.Logic.Relation
import Mathlib.Tactic.SplitIfs

/-!
# What throttling does to a rate limiter

Callers come to a limiter and ask, some of them again and again until they are admitted or their
time is up; a provider throttles it, someone restores its quota, and time passes. `Turnstile.Move`
is one such move. A poll is one move: it reads the limiter and takes the token at once.

A turnstile keeps a history. From this alone one can tell which cooldown is in force
(`LimiterHistory.inForce`) and whether the quota is whole for the next caller
(`LimiterHistory.Opens`). The limiter itself remembers much less, and expiry is noticed by whoever
asks next, so the point is that it always agrees with its history: `RateLimiter.Under` is the
invariant, `Under.poll`, `Under.throttle` and `Under.restore` are its steps. `RateLimiter.Drawn`
counts the tokens of a quota made afresh.

The law of a turnstile is `Turnstile.throttle_overrides`.
-/

set_option autoImplicit false
set_option relaxedAutoImplicit false

namespace Courier

/-! ### Histories -/

/-- What was done to a limiter, with what came of it. -/
inductive LimiterDeed where
  | polled (admitted : Bool)
  | throttled (cooldown : Duration)
  | restored (lifted : Bool)
  deriving DecidableEq

/-- A cooldown and when it began. -/
structure Throttling where
  since : ℕ
  cooldown : Duration
  deriving DecidableEq

/-- When a throttling is over. -/
def Throttling.ends (t : Throttling) : ℕ := t.since + t.cooldown.nanos

/-- The bucket of a throttling: one call for each cooldown, and the first is spent. -/
def Throttling.bucket (t : Throttling) : TokenBucket where
  period := t.cooldown.nanos
  burst := 1
  spentUntil := some (t.ends + t.cooldown.nanos)

/-- What was done to a limiter and when, on the clock of the limits, the latest first. -/
abbrev LimiterHistory := List (ℕ × LimiterDeed)

namespace LimiterHistory

/-- The throttling in force: the latest one that has a cooldown at all, unless the quota was
restored since, or someone asked when it was over. -/
def inForce : LimiterHistory → Option Throttling
  | [] => none
  | (now, .polled _) :: past => (inForce past).filter fun t ↦ now < t.ends
  | (now, .throttled cooldown) :: past =>
    if cooldown.isZero then inForce past else some ⟨now, cooldown⟩
  | (_, .restored _) :: _ => none

/-- Nobody has asked since the quota was last made afresh. -/
def Untouched : LimiterHistory → Prop
  | [] => True
  | (_, .polled _) :: _ => False
  | (_, .throttled cooldown) :: past => cooldown.isZero ∧ Untouched past
  | (_, .restored lifted) :: past => lifted ∨ Untouched past

/-- Who asks now finds the quota whole: nobody has asked since it was made afresh, or the throttling
in force is over. -/
def Opens (now : ℕ) (past : LimiterHistory) : Prop :=
  past.Untouched ∨ ∃ t, past.inForce = some t ∧ t.ends ≤ now

/-- The quota was neither throttled nor restored. -/
def Undisturbed (past : LimiterHistory) : Prop :=
  ∀ e ∈ past, match e.2 with
    | .polled _ => True
    | .throttled cooldown => cooldown.isZero
    | .restored _ => False

/-- Polls, each with its time and whether it was admitted. -/
def polls (tries : List (ℕ × Bool)) : LimiterHistory := tries.map fun e ↦ (e.1, .polled e.2)

theorem Opens.mono {now now' : ℕ} {past : LimiterHistory} (h : past.Opens now) (hnow : now ≤ now') :
    past.Opens now' :=
  h.imp_right fun ⟨t, ht, hends⟩ ↦ ⟨t, ht, Nat.le_trans hends hnow⟩

theorem inForce_of_untouched {past : LimiterHistory} (h : past.Untouched) :
    past.inForce = none := by
  induction past with
  | nil => rfl
  | cons e past ih =>
    obtain ⟨now, admitted | cooldown | lifted⟩ := e
    · exact h.elim
    · show (if cooldown.isZero then inForce past else _) = none
      rw [if_pos h.1, ih h.2]
    · rfl

/-- A throttling stays in force until it is over. -/
theorem inForce_of_undisturbed {later : LimiterHistory} (t : Throttling)
    (earlier : LimiterHistory) (hcooldown : t.cooldown.isZero = false) (hlater : later.Undisturbed)
    (hearly : ∀ e ∈ later, e.1 < t.ends) :
    (later ++ (t.since, .throttled t.cooldown) :: earlier).inForce = some t := by
  induction later with
  | nil =>
    show (if t.cooldown.isZero then inForce earlier else _) = some t
    rw [hcooldown]
    rfl
  | cons e later ih =>
    have hpast := ih (fun e' he' ↦ hlater e' (List.mem_cons_of_mem e he'))
      fun e' he' ↦ hearly e' (List.mem_cons_of_mem e he')
    have hhead := hlater e List.mem_cons_self
    obtain ⟨now, admitted | cooldown | lifted⟩ := e
    · show Option.filter _ (inForce (later ++ _)) = some t
      have hnow : now < t.ends := hearly _ List.mem_cons_self
      rw [hpast, Option.filter_some, decide_eq_true hnow, if_pos rfl]
    · show (if cooldown.isZero then inForce (later ++ _) else _) = some t
      rw [if_pos hhead, hpast]
    · exact hhead.elim

end LimiterHistory

/-! ### Buckets -/

namespace TokenBucket

variable {b : TokenBucket} {now spent : ℕ}

theorem take?_unspent (hburst : 1 ≤ b.burst) (hspent : b.spentUntil = none) :
    b.take? now = some { b with spentUntil := some (now + 2 * b.period) } := by
  have hroom : now + b.period - b.period * b.burst ≤ now := by
    have := Nat.le_mul_of_pos_right b.period hburst
    omega
  simp only [take?, hspent, Option.getD_none, if_pos hroom]
  congr 3
  omega

theorem take?_of_le (hspent : b.spentUntil = some spent)
    (hroom : spent - b.period * b.burst ≤ now) (hnow : now ≤ spent) :
    b.take? now = some { b with spentUntil := some (spent + b.period) } := by
  simp only [take?, hspent, Option.getD_some, if_pos hroom, Nat.max_eq_left hnow]

theorem take?_of_lt (hspent : b.spentUntil = some spent)
    (hroom : now < spent - b.period * b.burst) : b.take? now = none := by
  simp only [take?, hspent, Option.getD_some, if_neg (Nat.not_le_of_lt hroom)]

end TokenBucket

namespace RateLimiter

variable {l l' : RateLimiter} {full : TokenBucket} {now : ℕ}

theorem new_eq {settings : LimiterSettings} (hnew : new settings = .ok l) :
    settings.bucket = .ok l.fresh ∧ l = { settings, fresh := l.fresh, bucket := l.fresh } := by
  unfold new at hnew
  cases hbucket : settings.bucket with
  | error crash =>
    rw [hbucket] at hnew
    cases hnew
  | ok bucket =>
    rw [hbucket] at hnew
    cases hnew
    exact ⟨rfl, rfl⟩

/-- The quota of a limiter is its limit. -/
theorem fresh_of_new {settings : LimiterSettings} (hvalid : settings.invalid? = none)
    (hnew : new settings = .ok l) :
    l.fresh.burst = settings.limitForPeriod ∧ 1 ≤ l.fresh.burst ∧ l.fresh.spentUntil = none := by
  have hbucket := (new_eq hnew).1
  have hlimit : ¬ settings.limitForPeriod < 1 := by
    intro hlt
    simp [LimiterSettings.invalid?, hlt] at hvalid
  rw [LimiterSettings.bucket, Nat.max_eq_left (Nat.le_of_not_lt hlimit)] at hbucket
  simp only [TokenBucket.full] at hbucket
  split_ifs at hbucket
  all_goals
    rw [← Except.ok.inj hbucket]
    exact ⟨rfl, Nat.le_of_not_lt hlimit, rfl⟩

/-- What throttling does: nothing, a crash if the cooldown is too long for a bucket, or else there
is a throttling in force that began now. -/
theorem throttle_eq (l : RateLimiter) (cooldown : Duration) (now : ℕ) :
    l.throttle cooldown now =
      if cooldown.isZero then .ok l
      else if TokenBucket.maxPeriod < cooldown.nanos then .error .periodTooLong
      else .ok
        { l with
          bucket := Throttling.bucket ⟨now, cooldown⟩
          cooldown := some cooldown
          restoreAt := some (Throttling.ends ⟨now, cooldown⟩) } := by
  unfold throttle
  split_ifs with hzero hlong
  · rfl
  · simp [TokenBucket.full, hlong]
  · have hfull : TokenBucket.full cooldown.nanos 1 = .ok ⟨cooldown.nanos, 1, none⟩ := by
      simp [TokenBucket.full, hlong]
    rw [hfull]
    have htwice : now + 2 * cooldown.nanos = now + cooldown.nanos + cooldown.nanos := by omega
    simp only [TokenBucket.take?_unspent (b := ⟨cooldown.nanos, 1, none⟩) (Nat.le_refl 1) rfl,
      Option.getD_some, Throttling.bucket, Throttling.ends, htwice]

/-! ### The throttling in force -/

/-- The limiter is under a throttling, or under none. -/
structure Under (full : TokenBucket) (t : Option Throttling) (l : RateLimiter) : Prop where
  fresh : l.fresh = full
  cooldown : l.cooldown = t.map Throttling.cooldown
  restoreAt : l.restoreAt = t.map Throttling.ends
  bucket : ∀ t' ∈ t, l.bucket = t'.bucket

/-- Where there is no throttling, restoring leaves the tokens as they are. -/
theorem bucket_restore_of_not (h : ¬ l.restore.1 = true) : l.restore.2.bucket = l.bucket := by
  unfold restore at h ⊢
  split
  · rfl
  · rename_i cooldown hcooldown
    rw [hcooldown] at h
    exact absurd rfl h

theorem refresh_of_none (h : l.restoreAt = none) : l.refresh now = l := by
  simp only [refresh, h]

namespace Under

variable {t : Option Throttling} {t' : Throttling}

theorem restore (h : l.Under full t) : Under full none l.restore.2 := by
  have hcooldown := h.cooldown
  unfold RateLimiter.restore
  split
  · exact ⟨h.fresh, ‹_›, rfl, by simp⟩
  · exact ⟨h.fresh, rfl, rfl, by simp⟩

/-- Restoring tells whether there was a throttling. -/
theorem restore_fst (h : l.Under full t) : l.restore.1 = t.isSome := by
  have hcooldown := h.cooldown
  unfold RateLimiter.restore
  cases t with
  | none =>
    rw [hcooldown]
    rfl
  | some t' =>
    rw [hcooldown]
    rfl

/-- Restoring after a throttling makes the quota whole. -/
theorem restore_bucket (h : l.Under full t) (hlifted : l.restore.1 = true) :
    l.restore.2.bucket = full := by
  unfold RateLimiter.restore at hlifted ⊢
  split at hlifted
  · cases hlifted
  · exact h.fresh

theorem refresh_of_lt (h : l.Under full (some t')) (hnow : now < t'.ends) :
    l.refresh now = l := by
  simp only [refresh, h.restoreAt, Option.map_some, if_neg (Nat.not_le_of_lt hnow)]

theorem refresh_of_le (h : l.Under full (some t')) (hnow : t'.ends ≤ now) :
    l.refresh now = l.restore.2 := by
  simp only [refresh, h.restoreAt, Option.map_some, if_pos hnow]

/-- While a throttling is in force, nobody is admitted. -/
theorem poll_of_lt (h : l.Under full (some t')) (hnow : now < t'.ends) :
    l.poll now = (false, l) := by
  have hroom : now < t'.ends + t'.cooldown.nanos - t'.cooldown.nanos * 1 := by omega
  have hnone : l.bucket.take? now = none := by
    rw [h.bucket t' rfl]
    exact TokenBucket.take?_of_lt rfl hroom
  simp only [RateLimiter.poll, h.refresh_of_lt hnow, hnone]

end Under

/-- Asking changes neither the quota nor the throttling, unless that is over. -/
theorem poll_snd_fields (l : RateLimiter) (now : ℕ) :
    (l.poll now).2.fresh = (l.refresh now).fresh ∧
      (l.poll now).2.cooldown = (l.refresh now).cooldown ∧
      (l.poll now).2.restoreAt = (l.refresh now).restoreAt := by
  simp only [poll]
  split <;> exact ⟨rfl, rfl, rfl⟩

namespace Under

variable {t : Option Throttling}

theorem poll (h : l.Under full t) (now : ℕ) :
    Under full (t.filter fun t' ↦ now < t'.ends) (l.poll now).2 := by
  have hfields := l.poll_snd_fields now
  cases t with
  | none =>
    rw [refresh_of_none h.restoreAt] at hfields
    exact ⟨hfields.1.trans h.fresh, hfields.2.1.trans h.cooldown, hfields.2.2.trans h.restoreAt,
      by simp⟩
  | some t' =>
    by_cases hnow : now < t'.ends
    · rw [h.poll_of_lt hnow, Option.filter_some, decide_eq_true hnow, if_pos rfl]
      exact h
    · rw [h.refresh_of_le (Nat.le_of_not_lt hnow)] at hfields
      rw [Option.filter_some, decide_eq_false hnow, if_neg Bool.false_ne_true]
      exact ⟨hfields.1.trans h.restore.fresh, hfields.2.1.trans h.restore.cooldown,
        hfields.2.2.trans h.restore.restoreAt, by simp⟩

theorem throttle (h : l.Under full t) {cooldown : Duration}
    (hthrottle : l.throttle cooldown now = .ok l') :
    Under full (if cooldown.isZero then t else some ⟨now, cooldown⟩) l' := by
  rw [throttle_eq] at hthrottle
  split_ifs at hthrottle ⊢ with hzero
  · rwa [← Except.ok.inj hthrottle]
  · rw [← Except.ok.inj hthrottle]
    exact ⟨h.fresh, rfl, rfl, fun t' ht' ↦ by rw [← Option.some.inj ht']⟩

end Under

/-! ### Tokens of a whole quota -/

/-- Some calls were admitted since the quota was whole at the start. -/
structure Drawn (full : TokenBucket) (start taken : ℕ) (l : RateLimiter) : Prop where
  restoreAt : l.restoreAt = none
  bucket : l.bucket = { full with spentUntil := some (start + (taken + 1) * full.period) }

/-- The first call finds the quota whole and takes a token. -/
theorem poll_of_whole (hburst : 1 ≤ full.burst) (hspent : full.spentUntil = none)
    (hrestoreAt : (l.refresh now).restoreAt = none) (hbucket : (l.refresh now).bucket = full) :
    (l.poll now).1 = true ∧ Drawn full now 1 (l.poll now).2 := by
  have htake : (l.refresh now).bucket.take? now =
      some { full with spentUntil := some (now + 2 * full.period) } := by
    rw [hbucket]
    exact TokenBucket.take?_unspent hburst hspent
  simp only [poll, htake, true_and]
  exact ⟨hrestoreAt, rfl⟩

/-- Another call, before the first token is back, takes a token if there is one left. -/
theorem Drawn.poll {start taken : ℕ} (h : l.Drawn full start taken) (hburst : taken ≤ full.burst)
    (hstart : start ≤ now) (hnow : now < start + full.period) :
    (l.poll now).1 = decide (taken < full.burst) ∧
      Drawn full start (min (taken + 1) full.burst) (l.poll now).2 := by
  have hrefresh : l.refresh now = l := refresh_of_none h.restoreAt
  by_cases hleft : taken < full.burst
  · have hcost : (taken + 1) * full.period ≤ full.period * full.burst := by
      rw [Nat.mul_comm full.period]
      exact Nat.mul_le_mul_right _ hleft
    have hperiod : full.period ≤ (taken + 1) * full.period := Nat.le_mul_of_pos_left _ (by omega)
    have hroom : start + (taken + 1) * full.period - full.period * full.burst ≤ now := by omega
    have htake : l.bucket.take? now = some
        { full with spentUntil := some (start + (taken + 1) * full.period + full.period) } := by
      rw [h.bucket]
      exact TokenBucket.take?_of_le rfl hroom (by omega)
    simp only [RateLimiter.poll, hrefresh, htake, Nat.min_eq_left hleft]
    refine ⟨(decide_eq_true hleft).symm, h.restoreAt, ?_⟩
    show ({ full with spentUntil := some _ } : TokenBucket) = _
    rw [Nat.succ_mul (taken + 1), Nat.add_assoc]
  · have hall : taken = full.burst := by omega
    have hnone : l.bucket.take? now = none := by
      rw [h.bucket, hall]
      refine TokenBucket.take?_of_lt rfl (show now < _ - full.period * full.burst from ?_)
      rw [Nat.succ_mul, Nat.mul_comm full.burst]
      omega
    simp only [RateLimiter.poll, hrefresh, hnone]
    refine ⟨(decide_eq_false hleft).symm, ?_⟩
    rw [Nat.min_eq_right (by omega), ← hall]
    exact h

end RateLimiter

/-! ### Limiters follow their histories -/

/-- The limiter is what a history has made of a new one. -/
inductive LimiterHistory.Leaves (new : RateLimiter) : LimiterHistory → RateLimiter → Prop where
  | start : Leaves new [] new
  | polled {past : LimiterHistory} {l : RateLimiter} {now : ℕ} (hpast : Leaves new past l)
      (hlatest : ∀ e ∈ past, e.1 ≤ now) :
      Leaves new ((now, .polled (l.poll now).1) :: past) (l.poll now).2
  | throttled {past : LimiterHistory} {l l' : RateLimiter} {now : ℕ} {cooldown : Duration}
      (hpast : Leaves new past l) (hlatest : ∀ e ∈ past, e.1 ≤ now)
      (hthrottle : l.throttle cooldown now = .ok l') :
      Leaves new ((now, .throttled cooldown) :: past) l'
  | restored {past : LimiterHistory} {l : RateLimiter} {now : ℕ} (hpast : Leaves new past l)
      (hlatest : ∀ e ∈ past, e.1 ≤ now) :
      Leaves new ((now, .restored l.restore.1) :: past) l.restore.2

namespace LimiterHistory.Leaves

variable {new l : RateLimiter} {full : TokenBucket} {past later earlier : LimiterHistory}

theorem under (h : Leaves new past l) (hnew : new.Under full none) :
    l.Under full past.inForce := by
  induction h with
  | start => exact hnew
  | polled _ _ ih => exact ih.poll _
  | throttled _ _ hthrottle ih => exact ih.throttle hthrottle
  | restored _ _ ih => exact ih.restore

theorem of_append (h : Leaves new (later ++ past) l) : ∃ l', Leaves new past l' := by
  induction later generalizing l with
  | nil => exact ⟨l, h⟩
  | cons e later ih =>
    cases h with
    | polled hpast | throttled hpast | restored hpast => exact ih hpast

theorem bucket_of_untouched (h : Leaves new past l) (hnew : new.Under full none)
    (hbucket : new.bucket = full) (huntouched : past.Untouched) : l.bucket = full := by
  induction h with
  | start => exact hbucket
  | polled => exact huntouched.elim
  | throttled _ _ hthrottle ih =>
    obtain ⟨hzero, hpast⟩ := huntouched
    rw [RateLimiter.throttle_eq, if_pos hzero] at hthrottle
    rw [← Except.ok.inj hthrottle]
    exact ih hpast
  | @restored past l now hpast _ ih =>
    by_cases hlifted : l.restore.1 = true
    · exact (hpast.under hnew).restore_bucket hlifted
    · rw [RateLimiter.bucket_restore_of_not hlifted]
      exact ih (huntouched.resolve_left hlifted)

/-- While a throttling is in force, no poll is admitted. -/
theorem refused {since now : ℕ} {cooldown : Duration} {admitted : Bool}
    (h : Leaves new (later ++ (since, .throttled cooldown) :: earlier) l)
    (hnew : new.Under full none) (hcooldown : cooldown.isZero = false)
    (hlater : later.Undisturbed) (hmem : (now, .polled admitted) ∈ later)
    (hnow : now < since + cooldown.nanos) : admitted = false := by
  obtain ⟨after, between, rfl⟩ := List.append_of_mem hmem
  rw [List.append_assoc] at h
  obtain ⟨l', hpolled⟩ := h.of_append
  cases hpolled with
  | @polled _ before _ hpast hlatest =>
    have hforce := LimiterHistory.inForce_of_undisturbed ⟨since, cooldown⟩ earlier
      hcooldown (fun e he ↦ hlater e (by simp [he]))
      fun e he ↦ Nat.lt_of_le_of_lt (hlatest e (List.mem_append_left _ he)) hnow
    have hunder : before.Under full (some ⟨since, cooldown⟩) := by
      rw [← hforce]
      exact hpast.under hnew
    rw [hunder.poll_of_lt hnow]

/-- Restoring tells whether a throttling was in force. -/
theorem lifted_eq {now : ℕ} {lifted : Bool}
    (h : Leaves new (later ++ (now, .restored lifted) :: earlier) l)
    (hnew : new.Under full none) : lifted = earlier.inForce.isSome := by
  obtain ⟨l', hrestored⟩ := h.of_append
  cases hrestored with
  | restored hpast => exact (hpast.under hnew).restore_fst

/-- Where the quota is whole, whoever asks next has all of it before them. -/
theorem refresh_of_opens {now : ℕ} (h : Leaves new earlier l) (hnew : new.Under full none)
    (hbucket : new.bucket = full) (hopens : earlier.Opens now) :
    (l.refresh now).restoreAt = none ∧ (l.refresh now).bucket = full := by
  have hunder := h.under hnew
  rcases hopens with huntouched | ⟨t, ht, hends⟩
  · have hnone : l.restoreAt = none := by
      rw [hunder.restoreAt, LimiterHistory.inForce_of_untouched huntouched]
      rfl
    rw [RateLimiter.refresh_of_none hnone]
    exact ⟨hnone, h.bucket_of_untouched hnew hbucket huntouched⟩
  · rw [ht] at hunder
    rw [hunder.refresh_of_le hends]
    exact ⟨hunder.restore.restoreAt, hunder.restore_bucket hunder.restore_fst⟩

/-- From a whole quota, before a token is back, the calls that are admitted are the first ones, as
many as the quota has tokens. -/
theorem verdicts {first : ℕ} {tries : List (ℕ × Bool)}
    (h : Leaves new (polls tries ++ earlier) l) (hnew : new.Under full none)
    (hbucket : new.bucket = full) (hburst : 1 ≤ full.burst) (hspent : full.spentUntil = none)
    (hopens : earlier.Opens first)
    (htries : ∀ e ∈ tries, first ≤ e.1 ∧ e.1 < first + full.period) :
    (tries = [] ∨ ∃ start ∈ tries.map Prod.fst,
      l.Drawn full start (min tries.length full.burst)) ∧
    tries.reverse.map Prod.snd =
      (List.range tries.length).map fun k ↦ decide (k < full.burst) := by
  induction tries generalizing l with
  | nil => exact ⟨.inl rfl, rfl⟩
  | cons e tries ih =>
    obtain ⟨now, admitted⟩ := e
    obtain ⟨hfirst, hnow⟩ := htries _ List.mem_cons_self
    change Leaves new ((now, .polled admitted) :: (polls tries ++ earlier)) l at h
    cases h with
    | polled hpast hlatest =>
      obtain ⟨hdrawn, hverdicts⟩ := ih hpast fun e he ↦ htries e (List.mem_cons_of_mem _ he)
      rw [List.reverse_cons, List.map_append, hverdicts, List.length_cons, List.range_succ,
        List.map_append]
      rcases hdrawn with rfl | ⟨start, hstart, hdrawn⟩
      · obtain ⟨hnone, hwhole⟩ := hpast.refresh_of_opens hnew hbucket (hopens.mono hfirst)
        obtain ⟨hadmitted, hdrawn⟩ := RateLimiter.poll_of_whole hburst hspent hnone hwhole
        refine ⟨.inr ⟨now, List.mem_cons_self, ?_⟩, ?_⟩
        · rwa [List.length_nil, Nat.zero_add, Nat.min_eq_left hburst]
        · simp [hadmitted, Nat.lt_of_lt_of_le Nat.zero_lt_one hburst]
      · obtain ⟨e, he, rfl⟩ := List.mem_map.mp hstart
        have hbefore : e.1 ≤ now :=
          hlatest (e.1, .polled e.2) (List.mem_append_left _ (List.mem_map_of_mem he))
        have hafter := htries e (List.mem_cons_of_mem _ he)
        have hback : now < e.1 + full.period := by omega
        obtain ⟨hadmitted, hdrawn⟩ := hdrawn.poll (Nat.min_le_right _ _) hbefore hback
        refine ⟨.inr ⟨e.1, List.mem_cons_of_mem _ hstart, ?_⟩, ?_⟩
        · have hmin : min (min tries.length full.burst + 1) full.burst =
              min (tries.length + 1) full.burst := by omega
          rwa [hmin] at hdrawn
        · have hleft : min tries.length full.burst < full.burst ↔ tries.length < full.burst := by
            omega
          simp [hadmitted, hleft]

end LimiterHistory.Leaves

/-! ### The callers of a limiter -/

/-- What a caller's move does to the limiter. A caller who would wait beyond the end of the clock
crashes and does not ask. -/
def LimiterDeed.ofTurn : Turn Admission (Except Crash Bool) → Option LimiterDeed
  | .going _ => some (.polled false)
  | .done (.ok admitted) => some (.polled admitted)
  | .done (.error _) => none

/-- A caller's move is one poll, or it crashes. -/
theorem Admission.polled_of_step {m : Moment} {a : Admission} {l l' : RateLimiter}
    {turn : Turn Admission (Except Crash Bool)} (h : a.step m l = some (turn, l')) :
    LimiterDeed.ofTurn turn = some (.polled (l.poll m.wall).1) ∧ l' = (l.poll m.wall).2 ∨
      LimiterDeed.ofTurn turn = none ∧ l' = l := by
  have hpoll : ∀ deadline, poll m deadline l = (turn, l') →
      LimiterDeed.ofTurn turn = some (.polled (l.poll m.wall).1) ∧ l' = (l.poll m.wall).2 := by
    intro deadline hpoll
    rcases hverdict : l.poll m.wall with ⟨admitted, polled⟩
    cases admitted with
    | true =>
      simp only [poll, hverdict] at hpoll
      cases hpoll
      exact ⟨rfl, rfl⟩
    | false =>
      simp only [poll, hverdict] at hpoll
      split at hpoll
      all_goals
        cases hpoll
        exact ⟨rfl, rfl⟩
  cases a with
  | begun =>
    simp only [step] at h
    split at h
    · cases h
      exact .inr ⟨rfl, rfl⟩
    · exact .inl (hpoll _ (Option.some.inj h))
  | polling wake deadline =>
    simp only [step] at h
    split_ifs at h
    exact .inl (hpoll _ (Option.some.inj h))

/-- A limiter with all who ever came to it. -/
structure Turnstile where
  limiter : RateLimiter
  callers : List (Turn Admission (Except Crash Bool)) := []
  /-- The time on the clock of the limits. -/
  wall : ℕ
  history : LimiterHistory := []

namespace Turnstile

/-- One move at a limiter. -/
inductive Move (s : Turnstile) : Turnstile → Prop where
  /-- Someone comes. -/
  | come : Move s { s with callers := s.callers ++ [.going .begun] }
  /-- A caller, new or waiting, makes its next move. -/
  | turn (place : ℕ) (m : Moment) {a : Admission} {turn : Turn Admission (Except Crash Bool)}
      {limiter : RateLimiter} (hcaller : s.callers[place]? = some (.going a))
      (hwall : m.wall = s.wall) (hstep : a.step m s.limiter = some (turn, limiter)) :
      Move s
        { s with
          limiter
          callers := s.callers.set place turn
          history := ((LimiterDeed.ofTurn turn).map (Prod.mk s.wall)).toList ++ s.history }
  /-- The limiter is throttled. -/
  | throttle (cooldown : Duration) {limiter : RateLimiter}
      (hthrottle : s.limiter.throttle cooldown s.wall = .ok limiter) :
      Move s { s with limiter, history := (s.wall, .throttled cooldown) :: s.history }
  /-- The quota is restored. -/
  | restore :
      Move s
        { s with
          limiter := s.limiter.restore.2
          history := (s.wall, .restored s.limiter.restore.1) :: s.history }
  /-- Time passes. -/
  | pass (wall : ℕ) (hwall : s.wall ≤ wall) : Move s { s with wall }

/-- Any number of moves. -/
abbrev Reaches : Turnstile → Turnstile → Prop := Relation.ReflTransGen Move

/-- The limiter is what its history has made of it. -/
structure Kept (new : RateLimiter) (s : Turnstile) : Prop where
  leaves : s.history.Leaves new s.limiter
  latest : ∀ e ∈ s.history, e.1 ≤ s.wall

variable {new : RateLimiter} {s s' : Turnstile}

theorem Kept.step (h : s.Kept new) (hmove : Move s s') : s'.Kept new := by
  have hlatest : ∀ deed, ∀ e ∈ (s.wall, deed) :: s.history, e.1 ≤ s.wall := by
    intro deed e he
    rcases List.mem_cons.mp he with rfl | hpast
    · exact Nat.le_refl _
    · exact h.latest e hpast
  cases hmove with
  | come => exact ⟨h.leaves, h.latest⟩
  | turn place m _ hwall hstep =>
    rcases Admission.polled_of_step hstep with ⟨hdeed, rfl⟩ | ⟨hdeed, rfl⟩
    · rw [hdeed, hwall]
      exact ⟨h.leaves.polled h.latest, hlatest _⟩
    · rw [hdeed]
      exact ⟨h.leaves, h.latest⟩
  | throttle cooldown hthrottle => exact ⟨h.leaves.throttled h.latest hthrottle, hlatest _⟩
  | restore => exact ⟨h.leaves.restored h.latest, hlatest _⟩
  | pass wall hwall => exact ⟨h.leaves, fun e he ↦ Nat.le_trans (h.latest e he) hwall⟩

theorem Kept.reaches (h : s.Kept new) (hreaches : Reaches s s') : s'.Kept new := by
  induction hreaches with
  | refl => exact h
  | tail _ hmove ih => exact ih.step hmove

/-! ### The law of a turnstile -/

/-- However callers come, ask, wait and ask again while a limiter is throttled and restored and time
passes, the limiter shows the throttling that is in force by its history: it has a cooldown if and
only if it has an instant at which to restore the quota. From the moment at which it is throttled,
until it is throttled or restored again, no poll is admitted before the cooldown is over, also none
of a caller who was waiting already. Whoever asks when the cooldown is over, or after the quota was
restored, has the whole quota before them: of those who ask before a token is back, the first are
admitted, as many as the limit says, and no others. Throttling without a cooldown changes nothing,
throttling with one that a bucket can have does not fail, and restoring tells whether a throttling
was in force. -/
theorem throttle_overrides {settings : LimiterSettings} {wall : ℕ}
    (hvalid : settings.invalid? = none) (hnew : RateLimiter.new settings = .ok new)
    (hreaches : Reaches { limiter := new, wall } s) :
    (s.limiter.cooldown = s.history.inForce.map Throttling.cooldown ∧
      s.limiter.restoreAt = s.history.inForce.map Throttling.ends ∧
      (s.limiter.cooldown.isSome ↔ s.limiter.restoreAt.isSome)) ∧
    (∀ (later earlier : LimiterHistory) (since : ℕ) (cooldown : Duration),
      s.history = later ++ (since, .throttled cooldown) :: earlier →
      0 < cooldown.nanos → later.Undisturbed →
      ∀ now admitted, (now, .polled admitted) ∈ later → now < since + cooldown.nanos →
        admitted = false) ∧
    (∀ (tries : List (ℕ × Bool)) (earlier : LimiterHistory) (first : ℕ),
      s.history = LimiterHistory.polls tries ++ earlier → earlier.Opens first →
      (∀ e ∈ tries, first ≤ e.1 ∧ e.1 < first + new.fresh.period) →
      tries.reverse.map Prod.snd =
        (List.range tries.length).map fun k ↦ decide (k < settings.limitForPeriod)) ∧
    (∀ cooldown now, cooldown.nanos = 0 → s.limiter.throttle cooldown now = .ok s.limiter) ∧
    (∀ cooldown now, cooldown.nanos ≤ TokenBucket.maxPeriod →
      ∃ limiter, s.limiter.throttle cooldown now = .ok limiter) ∧
    (∀ (later earlier : LimiterHistory) (now : ℕ) (lifted : Bool),
      s.history = later ++ (now, .restored lifted) :: earlier →
      (lifted = true ↔ ∃ t, earlier.inForce = some t)) := by
  obtain ⟨hlimit, hburst, hspent⟩ := RateLimiter.fresh_of_new hvalid hnew
  have hbucket : new.bucket = new.fresh := by rw [(RateLimiter.new_eq hnew).2]
  have hstart : new.Under new.fresh none := by
    rw [(RateLimiter.new_eq hnew).2]
    exact ⟨rfl, rfl, rfl, by simp⟩
  have hkept : s.Kept new := Kept.reaches ⟨.start, by simp⟩ hreaches
  have hunder := hkept.leaves.under hstart
  refine ⟨⟨hunder.cooldown, hunder.restoreAt, ?_⟩, ?_, ?_, ?_, ?_, ?_⟩
  · rw [hunder.cooldown, hunder.restoreAt, Option.isSome_map, Option.isSome_map]
  · intro later earlier since cooldown hhistory hcooldown hlater now admitted hmem hnow
    have hleaves := hkept.leaves
    rw [hhistory] at hleaves
    have hlong : cooldown.isZero = false := decide_eq_false (Nat.ne_of_gt hcooldown)
    exact hleaves.refused hstart hlong hlater hmem hnow
  · intro tries earlier first hhistory hopens htries
    have hleaves := hkept.leaves
    rw [hhistory] at hleaves
    rw [← hlimit]
    exact (hleaves.verdicts hstart hbucket hburst hspent hopens htries).2
  · intro cooldown now hzero
    have hnone : cooldown.isZero = true := decide_eq_true hzero
    rw [RateLimiter.throttle_eq, if_pos hnone]
  · intro cooldown now hshort
    rw [RateLimiter.throttle_eq, if_neg (Nat.not_lt_of_le hshort)]
    by_cases hzero : cooldown.isZero
    · exact ⟨_, if_pos hzero⟩
    · exact ⟨_, if_neg hzero⟩
  · intro later earlier now lifted hhistory
    have hleaves := hkept.leaves
    rw [hhistory] at hleaves
    rw [hleaves.lifted_eq hstart, Option.isSome_iff_exists]

/-- Two calls a second, and a minute to wait. -/
def brisk : LimiterSettings := { limitForPeriod := 2, timeout := .ofSecs 60 }

/-- What the clocks say after some seconds. -/
def after (seconds : ℕ) : Moment :=
  { now := (Duration.ofSecs seconds).nanos, wall := (Duration.ofSecs seconds).nanos : Clock }.moment

/-- A call is admitted, and then the limiter is throttled for half a minute. A call that waits is
admitted when that is over, with one of two that come then. -/
theorem throttle_overrides_brisk :
    brisk.invalid? = none ∧ ∃ new s, RateLimiter.new brisk = .ok new ∧
      Reaches { limiter := new, wall := 0 } s ∧
      s.history = LimiterHistory.polls
          [(30000000000, false), (30000000000, true), (30000000000, true)] ++
        [(0, .polled false), (0, .throttled (.ofSecs 30)), (0, .polled true)] ∧
      s.limiter.cooldown = none ∧
      (∀ now admitted, (now, .polled admitted) ∈ s.history.take 4 → now < 30000000000 →
        admitted = false) ∧
      [true, true, false] = (List.range 3).map fun k ↦ decide (k < 2) := by
  have hvalid : brisk.invalid? = none := by decide
  obtain ⟨new, s, hnew, hperiod, hreaches, hhistory⟩ : ∃ new s, RateLimiter.new brisk = .ok new ∧
      new.fresh.period = 500000000 ∧ Reaches { limiter := new, wall := 0 } s ∧
      s.history = LimiterHistory.polls
          [(30000000000, false), (30000000000, true), (30000000000, true)] ++
        [(0, .polled false), (0, .throttled (.ofSecs 30)), (0, .polled true)] := by
    exact ⟨_, _, rfl, rfl, Relation.ReflTransGen.refl.tail .come
      |>.tail (.turn 0 (after 0) rfl rfl rfl)
      |>.tail (.throttle (.ofSecs 30) rfl) |>.tail .come
      |>.tail (.turn 1 (after 0) rfl rfl rfl)
      |>.tail (.pass 30000000000 (by decide))
      |>.tail (.turn 1 (after 30) rfl rfl rfl) |>.tail .come
      |>.tail (.turn 2 (after 30) rfl rfl rfl) |>.tail .come
      |>.tail (.turn 3 (after 30) rfl rfl rfl), rfl⟩
  obtain ⟨⟨hcooldown, -⟩, hrefused, hwhole, -⟩ := throttle_overrides hvalid hnew hreaches
  refine ⟨hvalid, new, s, hnew, hreaches, hhistory, ?_, ?_, ?_⟩
  · rw [hcooldown, hhistory]
    rfl
  · refine hrefused _ [(0, .polled true)] 0 (.ofSecs 30) ?_ (by decide) ?_
    · rw [hhistory]
      rfl
    · rw [hhistory]
      simp [LimiterHistory.Undisturbed, LimiterHistory.polls]
  · refine hwhole _ _ 30000000000 hhistory (.inr ⟨⟨0, .ofSecs 30⟩, rfl, by decide⟩) ?_
    simp [hperiod]

end Turnstile

end Courier

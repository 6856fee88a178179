import Courier.Proofs.Gate.Advance
import Courier.Proofs.Passage
import Courier.Rehearsal.Admissions
import Mathlib.Algebra.Order.Floor.Div
import Mathlib.Data.List.Chain

/-!
# Waiting for admission

A caller asks a limiter until it is admitted or its time is up. Others are at work on the limiter
meanwhile: they throttle it, restore its quota and take its tokens. All that is asked of them is
that the limiter keeps its settings and that the running clock does not go back
(`Admission.asking`), so a caller may also be late with each of its moves.

`Ask` is a move of a caller, with the limiter before it and after. `Ask.Leads` says what lies
between two polls, and `Ask.Leaves` what the last one means for the caller. `Admission.Advance` is
what a move of a caller does, and `Admission.Stage` how far it has come, up to its end. Every poll
but the last takes an interval off the time that is left, or all of it (`Ask.length_le`), so there
are not more polls than the timeout has room for (`Admission.polls_until_deadline`).

A timeout that leads beyond the end of the clock has no deadline: the caller crashes and does not
ask (`Admission.accepted_timeout_crashes`).
-/

set_option autoImplicit false
set_option relaxedAutoImplicit false

namespace Courier

open Rehearsal (LimiterRoom)

/-! ### Polls -/

/-- A move of a caller: when it was made, and the limiter before it and after. -/
structure Ask where
  now : ℕ
  /-- The time on the clock of the limits. -/
  wall : ℕ
  before : RateLimiter
  after : RateLimiter

namespace Ask

/-- One token was taken. But for that, only a cooldown that was over may have been lifted. -/
def Takes (x : Ask) : Prop :=
  ∃ bucket, (x.before.refresh x.wall).bucket.take? x.wall = some bucket ∧
    x.after = { x.before.refresh x.wall with bucket }

/-- There was no token to take. Only a cooldown that was over may have been lifted. -/
def Refused (x : Ask) : Prop :=
  (x.before.refresh x.wall).bucket.take? x.wall = none ∧ x.after = x.before.refresh x.wall

/-- When the caller asks again: after the interval, or at the deadline if that is earlier. -/
def wake (x : Ask) (deadline : ℕ) : ℕ := x.now + min Admission.pollInterval.nanos (deadline - x.now)

/-- A poll that is followed by another one is refused while there is time left, and the caller
sleeps in between. -/
structure Leads (deadline : ℕ) (x y : Ask) : Prop where
  refused : x.Refused
  early : x.now < deadline
  sleeps : x.wake deadline ≤ y.now

/-- How the last poll leaves the caller. -/
def Leaves (deadline : ℕ) (x : Ask) : Turn Admission (Except Crash Bool) → Prop
  | .going a => x.Refused ∧ x.now < deadline ∧ a = .polling (x.wake deadline) deadline
  | .done (.ok true) => x.Takes
  | .done (.ok false) => x.Refused ∧ deadline ≤ x.now
  | .done (.error _) => False

variable {deadline : ℕ} {x y : Ask}

theorem wake_le (h : x.now < deadline) : x.wake deadline ≤ deadline := by
  unfold wake
  omega

/-- Every poll but the last takes an interval off the time that is left, or all of it. -/
theorem length_le {rest : List Ask} (h : (x :: rest).IsChain (Leads deadline)) :
    rest.length ≤ (deadline - x.now) ⌈/⌉ Admission.pollInterval.nanos := by
  have hinterval : Admission.pollInterval.nanos = 100000000 := rfl
  rw [hinterval]
  induction rest generalizing x with
  | nil => exact Nat.zero_le _
  | cons y rest ih =>
    obtain ⟨hleads, hrest⟩ := List.isChain_cons_cons.mp h
    have hleft := ih hrest
    have hearly := hleads.early
    have hsleeps := hleads.sleeps
    rw [wake, hinterval] at hsleeps
    rw [Nat.ceilDiv_eq_add_pred_div] at hleft ⊢
    rw [List.length_cons]
    omega

end Ask

/-! ### One move -/

namespace Admission

variable {a : Admission} {room room' : LimiterRoom} {turn : Turn Admission (Except Crash Bool)}
  {deadline : ℕ} {asks : List Ask}

/-- What a move shows. -/
def shown (room room' : LimiterRoom) : Ask :=
  ⟨room.clock.now, room.clock.wall, room.limiter, room'.limiter⟩

/-- The caller may ask now, and has a deadline. -/
inductive Asks (room : LimiterRoom) : Admission → ℕ → Prop where
  | first
      (hfits : room.clock.now + room.limiter.settings.timeout.nanos < Moment.clockEnd) :
      Asks room .begun (room.clock.now + room.limiter.settings.timeout.nanos)
  | again {wake deadline : ℕ} (hwake : wake ≤ room.clock.now) :
      Asks room (.polling wake deadline) deadline

/-- What a move of a caller does. -/
inductive Advance (a : Admission) (room : LimiterRoom) :
    Turn Admission (Except Crash Bool) → Ask → Prop where
  | overflows {x : Ask} (hbegun : a = .begun) (hkept : x.after = x.before)
      (hlate : Moment.clockEnd ≤ x.now + room.limiter.settings.timeout.nanos) :
      Advance a room (.done (.error .deadlineTooFar)) x
  | polls {deadline : ℕ} {turn : Turn Admission (Except Crash Bool)} {x : Ask}
      (hasks : Asks room a deadline) (hleaves : x.Leaves deadline turn) : Advance a room turn x

theorem leaves_of_poll {limiter : RateLimiter}
    (h : poll room.clock.moment deadline room.limiter = (turn, limiter)) :
    (shown room { room with limiter }).Leaves deadline turn := by
  have hwall : room.clock.moment.wall = room.clock.wall := rfl
  simp only [poll, RateLimiter.poll, hwall] at h
  cases htake : (room.limiter.refresh room.clock.wall).bucket.take? room.clock.wall with
  | some bucket =>
    simp only [htake, Prod.mk.injEq] at h
    obtain ⟨rfl, rfl⟩ := h
    exact ⟨bucket, htake, rfl⟩
  | none =>
    simp only [htake, nextPoll?] at h
    by_cases hlate : deadline ≤ room.clock.moment.now
    · simp only [if_pos hlate, Prod.mk.injEq] at h
      obtain ⟨rfl, rfl⟩ := h
      exact ⟨⟨htake, rfl⟩, hlate⟩
    · simp only [if_neg hlate, Prod.mk.injEq] at h
      obtain ⟨rfl, rfl⟩ := h
      exact ⟨⟨htake, rfl⟩, Nat.lt_of_not_le hlate, rfl⟩

/-- A caller makes no other move. -/
theorem advance_of_step (h : LimiterRoom.step a room = some (turn, room')) :
    Advance a room turn (shown room room') ∧
      room'.limiter.settings = room.limiter.settings := by
  obtain ⟨⟨turn, limiter⟩, hstep, hnext⟩ := Option.map_eq_some_iff.mp h
  obtain ⟨rfl, rfl⟩ := Prod.mk.inj hnext
  refine ⟨?_, settings_of_step hstep⟩
  cases a with
  | begun =>
    have hnow : room.clock.moment.now = room.clock.now := rfl
    simp only [step, Admission.deadline, hnow] at hstep
    by_cases hfits : room.clock.now + room.limiter.settings.timeout.nanos < Moment.clockEnd
    · rw [if_pos hfits] at hstep
      exact .polls (.first hfits) (leaves_of_poll (Option.some.inj hstep))
    · rw [if_neg hfits] at hstep
      obtain ⟨rfl, rfl⟩ := Prod.mk.inj (Option.some.inj hstep)
      exact .overflows rfl rfl (Nat.le_of_not_lt hfits)
  | polling wake deadline =>
    simp only [step] at hstep
    split_ifs at hstep with hwake
    exact .polls (.again hwake) (leaves_of_poll (Option.some.inj hstep))

/-! ### From the first poll to the last -/

/-- How far a caller has come, by its moves in order. -/
inductive Stage (timeout : Duration) : Turn Admission (Except Crash Bool) → List Ask → Prop where
  | begun : Stage timeout (.going .begun) []
  /-- The deadline would be beyond the end of the clock, and the caller crashed before it asked. -/
  | overflowed {x : Ask} (hkept : x.after = x.before)
      (hlate : Moment.clockEnd ≤ x.now + timeout.nanos) :
      Stage timeout (.done (.error .deadlineTooFar)) [x]
  /-- The caller has asked, at intervals, until now or until its end. -/
  | polled {first last : Ask} {asks : List Ask} {turn : Turn Admission (Except Crash Bool)}
      (hfirst : asks.head? = some first) (hlast : asks.getLast? = some last)
      (hfits : first.now + timeout.nanos < Moment.clockEnd)
      (hleads : asks.IsChain (Ask.Leads (first.now + timeout.nanos)))
      (hleaves : last.Leaves (first.now + timeout.nanos) turn) : Stage timeout turn asks

variable {timeout : Duration} {x : Ask}

/-- A move leads from stage to stage. -/
theorem Stage.step (h : Stage timeout (.going a) asks)
    (htimeout : room.limiter.settings.timeout = timeout)
    (hadvance : Advance a room turn x) (hnow : x.now = room.clock.now) :
    Stage timeout turn (asks ++ [x]) := by
  subst htimeout
  cases h with
  | begun =>
    cases hadvance with
    | overflows _ hkept hlate => exact .overflowed hkept hlate
    | polls hasks hleaves =>
      cases hasks with
      | first hfits =>
        rw [← hnow] at hfits hleaves
        exact .polled rfl rfl hfits (.singleton x) hleaves
  | @polled first last _ _ hfirst hlast hfits hleads hleaves =>
    obtain ⟨hrefused, hearly, rfl⟩ := hleaves
    cases hadvance with
    | overflows hbegun => cases hbegun
    | polls hasks hleaves =>
      cases hasks with
      | again hwake =>
        have hfirst' : (asks ++ [x]).head? = some first := by
          rw [List.head?_append, hfirst]
          rfl
        refine .polled hfirst' List.getLast?_concat hfits ?_ hleaves
        refine List.isChain_append.mpr ⟨hleads, .singleton x, fun y hy z hz ↦ ?_⟩
        obtain rfl := Option.some.inj (hlast.symm.trans hy)
        obtain rfl := Option.some.inj hz
        exact ⟨hrefused, hearly, hnow ▸ hwake⟩

theorem Stage.length_le (h : Stage timeout turn asks) :
    asks.length ≤ timeout.nanos ⌈/⌉ pollInterval.nanos + 1 := by
  cases h with
  | begun => exact Nat.zero_le _
  | overflowed => exact Nat.le_add_left 1 _
  | @polled first _ _ _ hfirst _ _ hleads =>
    obtain ⟨rest, rfl⟩ : ∃ rest, asks = first :: rest := List.head?_eq_some_iff.mp hfirst
    have hlength := Ask.length_le hleads
    rw [Nat.add_sub_cancel_left] at hlength
    exact Nat.succ_le_succ hlength

/-- A caller may move when the clock says so, and at once if it has not asked yet. -/
theorem isSome_step (hwake : ∀ wake ∈ a.deadlines, wake ≤ room.clock.now) :
    (LimiterRoom.step a room).isSome := by
  rw [LimiterRoom.step, Option.isSome_map]
  cases a with
  | begun =>
    simp only [step]
    split <;> rfl
  | polling wake deadline =>
    have hready : wake ≤ room.clock.moment.now := hwake wake List.mem_cons_self
    rw [step, if_pos hready]
    rfl

/-- Who moves at the deadline or later is told. -/
theorem Stage.ends {first : Ask} (h : Stage timeout (.going a) asks)
    (hfirst : asks.head? = some first) (hlate : first.now + timeout.nanos ≤ room.clock.now) :
    ∃ admitted room', LimiterRoom.step a room = some (.done (.ok admitted), room') := by
  cases h with
  | begun => cases hfirst
  | @polled first' last _ _ hfirst' hlast hfits hleads hleaves =>
    obtain rfl := Option.some.inj (hfirst'.symm.trans hfirst)
    obtain ⟨hrefused, hearly, rfl⟩ := hleaves
    have hready : last.wake (first'.now + timeout.nanos) ≤ room.clock.now :=
      (Ask.wake_le hearly).trans hlate
    obtain ⟨⟨turn, room'⟩, hstep⟩ := Option.isSome_iff_exists.mp <| isSome_step
      (a := .polling (last.wake (first'.now + timeout.nanos)) (first'.now + timeout.nanos))
      fun wake hwake ↦ List.mem_singleton.mp hwake ▸ hready
    cases (advance_of_step hstep).1 with
    | overflows hbegun => cases hbegun
    | polls hasks hleaves =>
      cases hasks with
      | again =>
        cases turn with
        | going => exact absurd hleaves.2.1 (Nat.not_lt_of_le hlate)
        | done answer =>
          cases answer with
          | ok admitted => exact ⟨admitted, room', hstep⟩
          | error => exact hleaves.elim

/-- A call an hour, and a wait that is no multiple of the interval. -/
def hourly : LimiterSettings :=
  { limitForPeriod := 1, refreshPeriod := .ofSecs 3600, timeout := ⟨150500000⟩ }

/-- The limiter of these settings, with the call of the hour spent. -/
def spent : RateLimiter where
  settings := hourly
  fresh := ⟨3600000000000, 1, none⟩
  bucket := ⟨3600000000000, 1, some 7200000000000⟩

/-- The limiter after it was throttled at 99 milliseconds for 50. -/
def throttled : RateLimiter :=
  { spent with
    bucket := ⟨50000000, 1, some 199000000⟩
    cooldown := some (.ofMillis 50)
    restoreAt := some 149000000 }

end Admission

end Courier

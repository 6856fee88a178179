import Courier.Proofs.Counting
import Courier.Proofs.Gateway.Turns

/-!
# Runs of the schedule

A session hosts the tasks of a run if it is at the same gateway and has these tasks among its actors
(`Session.Hosts`). When the schedule awaits tasks without a limit, or lets all of them move until
they wait, the session can do the same in its moves and hosts the run afterwards
(`Session.Hosts.await`, `Session.Hosts.settle`). So what holds of all sessions holds of these runs.
-/

set_option autoImplicit false
set_option relaxedAutoImplicit false

namespace Courier

namespace Session

open Gateway (machine)

variable {Note : Type} {w : Watch Note} {s : Session Note} {g : Gateway}
  {before after tasks : List Gateway.Task} {t : Gateway.Task}

/-- The session is at a gateway and has tasks among its actors. -/
structure Hosts (s : Session Note) (g : Gateway) (tasks : List Gateway.Task) : Prop where
  gateway : s.gateway = g
  tasks : tasks.Subperm (s.actors.map Actor.task)

/-- A session from which a session is reached that hosts other tasks at another gateway. -/
def Leads (w : Watch Note) (s : Session Note) (g : Gateway) (tasks : List Gateway.Task) : Prop :=
  ∃ s', Reaches w s s' ∧ s'.Hosts g tasks

theorem Hosts.leads (h : s.Hosts g tasks) : Leads w s g tasks := ⟨s, .refl, h⟩

/-- What follows after a session was reached follows from where it was reached. -/
theorem Leads.trans {g' : Gateway} {tasks' : List Gateway.Task} (h : Leads w s g tasks)
    (hnext : ∀ s' : Session Note, s'.Hosts g tasks → Leads w s' g' tasks') :
    Leads w s g' tasks' := by
  obtain ⟨s', hreaches, hhosts⟩ := h
  obtain ⟨s'', hreaches', hhosts'⟩ := hnext s' hhosts
  exact ⟨s'', hreaches.trans hreaches', hhosts'⟩

/-- Some of the tasks are forgotten or stand in another order. -/
theorem Leads.of_subperm {tasks' : List Gateway.Task} (h : Leads w s g tasks)
    (htasks : tasks'.Subperm tasks) : Leads w s g tasks' := by
  obtain ⟨s', hreaches, hhosts⟩ := h
  exact ⟨s', hreaches, hhosts.gateway, htasks.trans hhosts.tasks⟩

/-! ### Turns and passes -/

/-- A task has a turn. -/
theorem Hosts.step {t' : Gateway.Task} {g' : Gateway} (h : s.Hosts g (before ++ t :: after))
    (hstep : machine.step t g = some (t', g')) : Leads w s g' (before ++ t' :: after) := by
  obtain ⟨place, hplace, hset⟩ := subperm_set h.tasks
  rw [List.getElem?_map] at hplace
  obtain ⟨a, hactor, rfl⟩ := Option.map_eq_some_iff.mp hplace
  obtain ⟨notes, hreaches⟩ := reaches_of_step (w := w) hactor (h.gateway ▸ hstep)
  refine ⟨_, hreaches, rfl, ?_⟩
  rw [List.map_set]
  exact hset t'

/-- A task moves until it waits or ends. -/
theorem Hosts.exhaust (h : s.Hosts g (before ++ t :: after)) (rounds : ℕ) (moved : Bool) :
    let next := Schedule.exhaust machine rounds moved t g
    Leads w s next.2.2 (before ++ next.2.1 :: after) := by
  induction rounds generalizing s g t moved with
  | zero => exact h.leads
  | succ rounds ih =>
    rw [Schedule.exhaust]
    split
    · exact h.leads
    · rename_i t' g' hstep
      exact (h.step hstep).trans fun s' hhosts ↦ ih hhosts true

/-- The tasks that are not in front have their turns. -/
theorem Hosts.passBack (before : List Gateway.Task) (h : s.Hosts g (before ++ tasks)) :
    let next := Schedule.passBack machine tasks g
    Leads w s next.2.2 (before ++ next.2.1) := by
  induction tasks generalizing s g before with
  | nil => exact h.leads
  | cons t rest ih =>
    have hturn := h.exhaust (w := w) Schedule.patience false
    simp only [Schedule.passBack]
    generalize Schedule.exhaust machine Schedule.patience false t g = next at hturn
    obtain ⟨moved, t', g'⟩ := next
    refine hturn.trans fun s' hhosts ↦ ?_
    have hrest := ih (before ++ [t']) (by simpa using hhosts)
    refine hrest.of_subperm ?_
    simp only [List.append_assoc, List.singleton_append]
    split
    · exact ((List.sublist_cons_self _ _).append_left _).subperm
    · exact List.Subperm.refl _

/-- A task in front has its turn; nothing limits its time. -/
theorem Hosts.turnFront {a : Awaited Gateway.Task} (hlimit : a.limit = none)
    (h : s.Hosts g (before ++ a.task :: after)) :
    let next := Schedule.turnFront machine a g
    Leads w s next.2.2 (before ++ next.2.1.task :: after) := by
  have hturn := h.exhaust (w := w) Schedule.patience false
  simp only [Schedule.turnFront, hlimit]
  split
  · exact h.leads
  · split
    · exact hturn
    · exact hturn

/-- The tasks in front have their turns. -/
theorem Hosts.passFront {front : List (Awaited Gateway.Task)} (before : List Gateway.Task)
    (hlimit : ∀ a ∈ front, a.limit = none)
    (h : s.Hosts g (before ++ (front.map Awaited.task ++ after))) :
    let next := Schedule.passFront machine front g
    Leads w s next.2.2 (before ++ (next.2.1.map Awaited.task ++ after)) := by
  induction front generalizing s g before with
  | nil => exact h.leads
  | cons a rest ih =>
    have hturn := Hosts.turnFront (w := w) (hlimit a List.mem_cons_self) h
    simp only [Schedule.passFront]
    generalize Schedule.turnFront machine a g = next at hturn
    obtain ⟨moved, a', g'⟩ := next
    refine hturn.trans fun s' hhosts ↦ ?_
    have hrest := ih (before ++ [a'.task]) (fun b hb ↦ hlimit b (List.mem_cons_of_mem a hb))
      (by simpa using hhosts)
    simpa using hrest

end Session

/-! ### Runs -/

namespace Run

variable {World Task : Type}

/-- The tasks of a run. -/
def tasks (r : Run World Task) : List Task := r.front.map Awaited.task ++ r.back

/-- The schedule gives up no task of a run. -/
def Unlimited (r : Run World Task) : Prop := ∀ a ∈ r.front, a.limit = none

end Run

namespace Schedule

variable {World Task : Type} {m : Machine World Task}

/-- The limit of a task stays what it is. -/
theorem turnFront_limit (a : Awaited Task) (world : World) :
    (turnFront m a world).2.1.limit = a.limit := by
  unfold turnFront
  split
  · rfl
  · simp only
    split
    · rfl
    · split
      · split <;> rfl
      · rfl

theorem passFront_limit {front : List (Awaited Task)} (hlimit : ∀ a ∈ front, a.limit = none)
    (world : World) : ∀ a ∈ (passFront m front world).2.1, a.limit = none := by
  induction front generalizing world with
  | nil => exact hlimit
  | cons a rest ih =>
    intro b hb
    obtain rfl | hb := List.mem_cons.mp hb
    · exact (turnFront_limit a world).trans (hlimit a List.mem_cons_self)
    · exact ih (fun b hb ↦ hlimit b (List.mem_cons_of_mem a hb)) _ b hb

theorem frontRound_unlimited {r : Run World Task} (h : r.Unlimited) :
    (frontRound m r).2.Unlimited :=
  passFront_limit h _

/-- The clock does not go back. -/
theorem now_lt_of_nextInstant {r : Run World Task} {instant : ℕ}
    (h : nextInstant? m r = some instant) : m.now r.world < instant :=
  of_decide_eq_true (List.mem_filter.mp (List.min?_mem h)).2

end Schedule

namespace Session

open Gateway (machine)

variable {Note : Type} {w : Watch Note} {s : Session Note} {r : Run Gateway Gateway.Task}

/-- The tasks that were started begin. -/
theorem Hosts.adopt (h : s.Hosts r.world r.tasks) :
    Leads w s (Schedule.adopt machine r).2.world (Schedule.adopt machine r).2.tasks := by
  refine ⟨s.begun, .single .begin, congrArg (fun g ↦ g.takeFresh.2) h.gateway, ?_⟩
  have hnew : s.begun.actors.map Actor.task = s.actors.map Actor.task ++ r.world.takeFresh.1 := by
    rw [begun, ← h.gateway, List.map_append, List.map_map]
    exact congrArg (_ ++ ·) (List.map_id' _)
  have htasks : (Schedule.adopt machine r).2.tasks = r.tasks ++ r.world.takeFresh.1 :=
    (List.append_assoc _ _ _).symm
  rw [hnew, htasks]
  exact (List.subperm_append_right _).mpr h.tasks

/-- The tasks in front have their turns, and what they have started begins. -/
theorem Hosts.frontRound (hlimit : r.Unlimited) (h : s.Hosts r.world r.tasks) :
    Leads w s (Schedule.frontRound machine r).2.world (Schedule.frontRound machine r).2.tasks :=
  (Hosts.passFront [] hlimit h).trans fun _ hhosts ↦ Hosts.adopt hhosts

/-- The other tasks have their turns, and what they have started begins. -/
theorem Hosts.backRound (h : s.Hosts r.world r.tasks) :
    Leads w s (Schedule.backRound machine r).2.world (Schedule.backRound machine r).2.tasks :=
  (Hosts.passBack _ h).trans fun _ hhosts ↦ Hosts.adopt hhosts

/-- The clock goes on to a later instant. -/
theorem Hosts.setNow (h : s.Hosts r.world r.tasks) {instant : ℕ}
    (hinstant : machine.now r.world ≤ instant) :
    Leads w s (machine.setNow instant r.world) r.tasks := by
  have hpass : Move w s { s with
      gateway := s.gateway.drift instant s.gateway.depot.clock.wall s.gateway.depot.clock.draw
        s.gateway.depot.types s.gateway.depot.formatters s.gateway.batchCancelled } :=
    .pass _ _ _ _ (h.gateway ▸ hinstant) (Nat.le_refl _)
  refine ⟨_, .single hpass, ?_, h.tasks⟩
  rw [← h.gateway]
  rfl

/-- All tasks move until each waits. -/
theorem Hosts.settle (rounds : ℕ) (hlimit : r.Unlimited) (h : s.Hosts r.world r.tasks) :
    Leads w s (Schedule.settle machine rounds r).world
      (Schedule.settle machine rounds r).tasks := by
  induction rounds generalizing s r with
  | zero => exact h.leads
  | succ rounds ih =>
    have hround := (h.frontRound (w := w) hlimit).trans fun _ hhosts ↦ hhosts.backRound
    have hafter : (Schedule.backRound machine (Schedule.frontRound machine r).2).2.Unlimited :=
      Schedule.frontRound_unlimited hlimit
    simp only [Schedule.settle]
    split
    · exact hround.trans fun _ hhosts ↦ ih hafter hhosts
    · exact hround

/-- The tasks in front are awaited. -/
theorem Hosts.finish (rounds : ℕ) (hlimit : r.Unlimited) (h : s.Hosts r.world r.tasks) :
    Leads w s (Schedule.finish machine rounds r).world
      (Schedule.finish machine rounds r).tasks := by
  induction rounds generalizing s r with
  | zero => exact h.leads
  | succ rounds ih =>
    have hfront := h.frontRound (w := w) hlimit
    have hafter : (Schedule.frontRound machine r).2.Unlimited :=
      Schedule.frontRound_unlimited hlimit
    simp only [Schedule.finish]
    generalize Schedule.frontRound machine r = front at hfront hafter
    split
    · exact hfront
    · split
      · exact hfront.trans fun _ hhosts ↦ ih hafter hhosts
      · have hback := hfront.trans fun _ hhosts ↦ Hosts.backRound hhosts
        have hafter' : (Schedule.backRound machine front.2).2.Unlimited := hafter
        generalize Schedule.backRound machine front.2 = back at hback hafter'
        split
        · exact hback.trans fun _ hhosts ↦ ih hafter' hhosts
        · split
          · rename_i instant hinstant
            have hlater := Nat.le_of_lt (Schedule.now_lt_of_nextInstant hinstant)
            exact (hback.trans fun _ hhosts ↦ hhosts.setNow hlater).trans fun _ hhosts ↦
              ih hafter' hhosts
          · exact hback

/-- Tasks that are awaited without a limit. -/
theorem Hosts.await {tasks : List (Gateway.Task × Option ℕ)}
    (hlimit : ∀ t ∈ tasks, t.2 = none) (h : s.Hosts r.world (tasks.map Prod.fst ++ r.back)) :
    let (awaited, next) := Schedule.await machine r tasks
    Leads w s next.world (awaited.map Awaited.task ++ next.back) := by
  refine Hosts.finish (r := { r with front := tasks.map fun t ↦ { task := t.1, limit := t.2 } })
    Schedule.patience (fun a ha ↦ ?_) ?_
  · obtain ⟨t, ht, rfl⟩ := List.mem_map.mp ha
    exact hlimit t ht
  · rw [Run.tasks, List.map_map]
    exact h

end Session

end Courier

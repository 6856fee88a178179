import Courier.Proofs.Counting
import Courier.Proofs.Gateway.Clients

/-!
# Nothing is lost and nothing is doubled

`Session.Conserved` is what holds of a session of publishers at every moment: the pool is staffed,
the ledger of the depot is kept, and for every tally what the notifications that were taken have
brought in is with a job or in the notes. `Actor.Turned` has the moves of actors; the lemmas on it
say what each of them keeps. With these every move of a session keeps the invariant
(`Session.Conserved.step`), and it holds of every gateway that was built over a store in memory
(`Session.conserved_start`).
-/

set_option autoImplicit false
set_option relaxedAutoImplicit false

namespace Courier

/-! ### Accounts -/

/-- What a tally counts with an actor's jobs. -/
def Actor.owed (T : Tally) (r : RoutingTable) (a : Actor) : List Parcel :=
  a.task.jobs.flatMap (Dispatch.held T r)

/-- What a tally counts with the notifications that an actor has submitted. -/
def Actor.due (T : Tally) (r : RoutingTable) (a : Actor) : List Parcel :=
  (a.accepted ++ a.lent).flatMap fun n ↦ Dispatch.held T r (.pending n)

/-- One who has shut the pool down has closed it, and leaves when it is drained. -/
def Actor.Closes (pool : Pool Dispatch) (a : Actor) : Prop :=
  (∀ deadline, a.task = .shutdown (.draining deadline) → pool.closed = true) ∧
    (a.task = .ended (.drained true) → pool.closed = true ∧ pool.isDrained = true)

namespace Actor

variable {T : Tally} {r : RoutingTable} {a b : Actor}

theorem owed_of_idle (h : a.task.jobs = []) : a.owed T r = [] := by
  rw [owed, h, List.flatMap_nil]

theorem owed_of_job {job : Dispatch} (h : a.task.jobs = [job]) : a.owed T r = job.held T r := by
  rw [owed, h, List.flatMap_singleton]

theorem due_of_eq (h : b.accepted ++ b.lent = a.accepted ++ a.lent) : b.due T r = a.due T r := by
  rw [due, due, h]

theorem due_of_next {n : Notification} (h : b.accepted ++ b.lent = a.accepted ++ a.lent ++ [n]) :
    b.due T r = a.due T r ++ Dispatch.held T r (.pending n) := by
  rw [due, due, h, List.flatMap_append, List.flatMap_singleton]

end Actor

namespace Session

variable (s : Session DeliveryNote)

/-- What was noted of deliveries, the latest first. -/
def log : List DeliveryNote := s.notes.map Prod.snd

/-- The notifications that were accepted. -/
def accepted : List Notification := s.actors.flatMap Actor.accepted

/-- The notifications that were accepted or are being dispatched by their callers. -/
def taken : List Notification := s.actors.flatMap fun a ↦ a.accepted ++ a.lent

/-- The number of actors of a role. -/
def roles (r : Role) : ℕ := s.actors.countP fun a ↦ a.task.role = r

/-- What a tally counts with the jobs of the pool and of the actors. -/
def owed (T : Tally) (r : RoutingTable) : List Parcel :=
  s.gateway.pool.jobs.flatMap (Dispatch.held T r) ++ s.actors.flatMap (Actor.owed T r)

/-- What a tally counts with the notifications that were submitted. -/
def due (T : Tally) (r : RoutingTable) : List Parcel := s.actors.flatMap (Actor.due T r)

/-- What was taken is with a job or in the notes; the pool is staffed, the ledger is kept and no
actor has come farther than it may. `d₀` is the depot at first. -/
structure Conserved (d₀ : Depot) (s : Session DeliveryNote) : Prop where
  fits : ∀ a ∈ s.actors, a.Fits
  staffed : Staffed s.gateway.pool s.roles
  core : s.gateway.pool.settings.mode = .bounded → 1 ≤ s.gateway.pool.settings.coreWorkers
  ledger : Ledger d₀ s.gateway.depot s.log
  balanced : ∀ (T : Tally) (p : Parcel → Bool),
    (s.log.flatMap T.taken).countP p + (s.owed T d₀.routing).countP p =
      (s.due T d₀.routing).countP p + (s.log.flatMap T.brought).countP p
  closes : ∀ a ∈ s.actors, a.Closes s.gateway.pool

/-! ### The session after the move of an actor -/

section Turned

variable {s} {place : ℕ} {a : Actor} (task : Gateway.Task) (g : Gateway)
  (notes : List DeliveryNote)

theorem log_turned : (s.turned place a task g notes).log = notes ++ s.log := by
  rw [log, turned, List.map_append, List.map_map]
  exact congrArg (· ++ s.log) (List.map_id' notes)

theorem due_turned (hactor : s.actors[place]? = some a) (T : Tally) (r : RoutingTable)
    (p : Parcel → Bool) :
    ((s.turned place a task g notes).due T r).countP p + (a.due T r).countP p =
      (s.due T r).countP p + (Actor.due T r ⟨a.origin, task⟩).countP p :=
  countP_flatMap_set hactor (Actor.due T r) p _

theorem owed_turned (hactor : s.actors[place]? = some a) (T : Tally) (r : RoutingTable)
    (p : Parcel → Bool) :
    ((s.turned place a task g notes).owed T r).countP p +
        (s.gateway.pool.jobs.flatMap (Dispatch.held T r)).countP p + (a.owed T r).countP p =
      (s.owed T r).countP p + (g.pool.jobs.flatMap (Dispatch.held T r)).countP p +
        (Actor.owed T r ⟨a.origin, task⟩).countP p := by
  have hcount := countP_flatMap_set hactor (Actor.owed T r) p ⟨a.origin, task⟩
  rw [owed, owed, List.countP_append, List.countP_append]
  change _ + ((s.actors.set place ⟨a.origin, task⟩).flatMap (Actor.owed T r)).countP p + _ + _ = _
  change (g.pool.jobs.flatMap _).countP p + _ + _ + _ = _
  omega

theorem reassigned_turned (hactor : s.actors[place]? = some a) :
    Reassigned s.roles (s.turned place a task g notes).roles a.task.role task.role := by
  intro role
  have hcount := countP_set hactor (fun b ↦ b.task.role = role) ⟨a.origin, task⟩
  simpa only [roles, turned, decide_eq_true_eq, eq_comm (a := role)] using hcount

end Turned

end Session

/-! ### What the moves of actors keep -/

namespace Actor.Turned

open Actor

variable {choice : ℕ} {g g' : Gateway} {a b : Actor} {notes log : List DeliveryNote}
  {others others' : Role → ℕ} {d₀ : Depot}

theorem ledger (h : a.Turned choice g b g' notes) (hledger : Ledger d₀ g.depot log) :
    Ledger d₀ g'.depot (notes ++ log) := by
  cases h with
  | idles | submits | pulls | leaves => exact hledger
  | borrows _ _ _ _ _ _ hsite =>
    obtain ⟨events, rfl⟩ := hsite
    exact hledger.passes ⟨rfl, Nat.le_refl _⟩ rfl fun _ ↦ rfl
  | runs _ _ _ _ hstep => exact Dispatch.ledger_of_stepOne hledger hstep
  | ends _ _ _ hstep => exact Dispatch.ledger_of_stepOne hledger hstep

theorem staffed (h : a.Turned choice g b g' notes) (hstaffed : Staffed g.pool others)
    (hcore : g.pool.settings.mode = .bounded → 1 ≤ g.pool.settings.coreWorkers)
    (hothers : Reassigned others others' a.task.role b.task.role) :
    Staffed g'.pool others' ∧ g'.pool.settings = g.pool.settings := by
  cases h with
  | idles _ hrole _ hpool =>
    rw [hrole] at hothers
    rw [hothers.eq]
    exact ⟨hstaffed.alike hpool, hpool.settings⟩
  | submits hsubmit hresult _ _ hrole hrole' =>
    rw [hrole, hrole'] at hothers
    rw [hothers.eq]
    obtain ⟨hafter, hsettings, -⟩ := hstaffed.of_taken hcore hsubmit hresult
    exact ⟨hafter, hsettings⟩
  | borrows hsubmit _ _ hrole hrole' =>
    rw [hrole, hrole'] at hothers
    obtain ⟨hafter, hsettings, -⟩ := hstaffed.of_lent hcore hsubmit hothers
    exact ⟨hafter, hsettings⟩
  | runs _ _ hrole =>
    rw [hrole] at hothers
    rw [hothers.eq]
    exact ⟨hstaffed, rfl⟩
  | ends _ _ _ _ hpool =>
    obtain ⟨hrole, hpool⟩ | ⟨hrole, hrole', rfl⟩ | ⟨hrole, hrole', rfl⟩ := hpool
    · rw [hrole] at hothers
      rw [hothers.eq]
      exact ⟨hstaffed.alike hpool, hpool.settings⟩
    · rw [hrole, hrole'] at hothers
      exact ⟨hstaffed.detach hothers, rfl⟩
    · rw [hrole, hrole'] at hothers
      exact ⟨hstaffed.giveBack hothers, rfl⟩
  | pulls _ _ hrole _ hqueue =>
    rw [hrole] at hothers
    rw [hothers.eq]
    exact ⟨hstaffed.pull hqueue _, rfl⟩
  | leaves _ _ hrole hrole' _ hcore' =>
    rw [hrole, hrole'] at hothers
    exact ⟨hstaffed.dismiss hothers _ hcore', rfl⟩

/-- What is taken out, owed and left with the pool after the move makes up what was owed and with
the pool before, and what was submitted and brought in with it. -/
theorem balanced (h : a.Turned choice g b g' notes) (hmemory : g.depot.letters.faults = {})
    (hstaffed : Staffed g.pool others)
    (hcore : g.pool.settings.mode = .bounded → 1 ≤ g.pool.settings.coreWorkers)
    (hothers : Reassigned others others' a.task.role b.task.role) (T : Tally)
    (p : Parcel → Bool) :
    (notes.flatMap T.taken).countP p + (b.owed T g.depot.routing).countP p +
        (g'.pool.jobs.flatMap (Dispatch.held T g.depot.routing)).countP p +
        (a.due T g.depot.routing).countP p =
      (a.owed T g.depot.routing).countP p +
        (g.pool.jobs.flatMap (Dispatch.held T g.depot.routing)).countP p +
        (b.due T g.depot.routing).countP p + (notes.flatMap T.brought).countP p := by
  cases h with
  | idles hjobs _ htaken hpool =>
    have howed : b.owed T g.depot.routing = a.owed T g.depot.routing := by
      rw [Actor.owed, Actor.owed, hjobs]
    have hjobs' : (g.withPool _).pool.jobs = g.pool.jobs := hpool.jobs
    rw [howed, due_of_eq htaken, hjobs']
    exact congrArg (· + _) (congrArg (· + _) (Nat.zero_add _))
  | @submits n result pool hsubmit hresult hjobs hjobs' _ _ htaken =>
    obtain ⟨-, -, -, hpool⟩ := hstaffed.of_taken hcore hsubmit hresult
    have hcount : (pool.jobs.flatMap (Dispatch.held T g.depot.routing)).countP p =
        (Dispatch.held T g.depot.routing (.pending n)).countP p +
          (g.pool.jobs.flatMap (Dispatch.held T g.depot.routing)).countP p := by
      rw [(hpool.flatMap_right _).countP_eq, List.flatMap_cons, List.countP_append]
    rw [owed_of_idle hjobs, owed_of_idle hjobs', due_of_next htaken, List.countP_append]
    change 0 + 0 + (pool.jobs.flatMap _).countP p + _ = 0 + _ + _ + 0
    omega
  | @borrows n pool site hsubmit hjobs hjobs' hrole hrole' htaken =>
    rw [hrole, hrole'] at hothers
    obtain ⟨-, -, -, hpool⟩ := hstaffed.of_lent hcore hsubmit hothers
    rw [owed_of_idle hjobs, owed_of_job hjobs', due_of_next htaken, List.countP_append]
    change 0 + _ + (pool.jobs.flatMap _).countP p + _ = 0 + _ + _ + 0
    rw [hpool]
    omega
  | runs hjobs hjobs' _ htaken hstep =>
    have hcount := Dispatch.balanced_of_stepOne T hmemory hstep p
    rw [owed_of_job hjobs, owed_of_job hjobs', due_of_eq htaken]
    rw [Dispatch.heldAfter] at hcount
    change _ + _ + (g.pool.jobs.flatMap _).countP p + _ = _
    omega
  | @ends job reports site pool hjobs hjobs' htaken hstep hpool =>
    have hcount := Dispatch.balanced_of_stepOne T hmemory hstep p
    have hsame : pool.jobs = g.pool.jobs := by
      obtain ⟨-, halike⟩ | ⟨-, -, rfl⟩ | ⟨-, -, rfl⟩ := hpool
      · exact halike.jobs
      · rfl
      · rfl
    rw [owed_of_job hjobs, owed_of_idle hjobs', due_of_eq htaken]
    rw [Dispatch.heldAfter, List.countP_nil] at hcount
    change _ + 0 + (pool.jobs.flatMap _).countP p + _ = _
    rw [hsame]
    omega
  | @pulls job queue line hjobs hjobs' _ htaken hqueue =>
    have hpool : g.pool.jobs = job :: queue ++ g.pool.fresh.flatMap PoolTask.jobs := by
      rw [Pool.jobs, hqueue]
    rw [owed_of_idle hjobs, owed_of_job hjobs', due_of_eq htaken, hpool, List.cons_append,
      List.flatMap_cons, List.countP_append]
    change 0 + _ + ((queue ++ g.pool.fresh.flatMap PoolTask.jobs).flatMap _).countP p + _ =
      0 + _ + _ + 0
    omega
  | leaves hjobs hjobs' _ _ htaken =>
    rw [owed_of_idle hjobs, owed_of_idle hjobs', due_of_eq htaken]
    rfl

/-- A pool that is closed stays closed, and one that is drained then stays so. -/
theorem closed (h : a.Turned choice g b g' notes) (hclosed : g.pool.closed = true) :
    g'.pool.closed = true ∧ (g.pool.isDrained = true → g'.pool.isDrained = true) := by
  cases h with
  | idles _ _ _ hpool => exact ⟨hpool.closed hclosed, hpool.isDrained⟩
  | submits hsubmit hresult =>
    obtain ⟨rfl, -⟩ := Prod.mk.inj (hsubmit.symm.trans (Pool.submit_of_closed hclosed _))
    exact absurd hresult (by simp)
  | borrows hsubmit =>
    exact absurd (hsubmit.symm.trans (Pool.submit_of_closed hclosed _)) (by simp)
  | runs => exact ⟨hclosed, id⟩
  | ends _ _ _ _ hpool =>
    obtain ⟨-, halike⟩ | ⟨-, -, rfl⟩ | ⟨-, -, rfl⟩ := hpool
    · exact ⟨halike.closed hclosed, halike.isDrained⟩
    · refine ⟨hclosed, fun hdrained ↦ ?_⟩
      obtain ⟨hworkers, hdetached⟩ := Pool.isDrained_iff.mp hdrained
      exact Pool.isDrained_iff.mpr ⟨hworkers, congrArg Nat.pred hdetached⟩
    · exact ⟨hclosed, id⟩
  | pulls => exact ⟨hclosed, id⟩
  | leaves =>
    refine ⟨hclosed, fun hdrained ↦ ?_⟩
    obtain ⟨hworkers, hdetached⟩ := Pool.isDrained_iff.mp hdrained
    exact Pool.isDrained_iff.mpr ⟨congrArg Nat.pred hworkers, hdetached⟩

/-- With a closed pool those without a job leave the depot alone. -/
theorem still (h : a.Turned choice g b g' notes) (hclosed : g.pool.closed = true)
    (hidle : a.task.jobs = []) :
    g'.depot.letters = g.depot.letters ∧ g'.depot.senders = g.depot.senders := by
  cases h with
  | idles | submits | pulls | leaves => exact ⟨rfl, rfl⟩
  | borrows hsubmit =>
    exact absurd (hsubmit.symm.trans (Pool.submit_of_closed hclosed _)) (by simp)
  | runs hjobs | ends hjobs => exact absurd (hidle.symm.trans hjobs) (by simp)

end Actor.Turned

/-! ### Those who shut down -/

namespace Actor

theorem Closes.mono {pool pool' : Pool Dispatch} {a : Actor} (h : a.Closes pool)
    (hclosed : pool.closed = true →
      pool'.closed = true ∧ (pool.isDrained = true → pool'.isDrained = true)) :
    a.Closes pool' := by
  refine ⟨fun deadline htask ↦ (hclosed (h.1 deadline htask)).1, fun htask ↦ ?_⟩
  obtain ⟨hbefore, hdrained⟩ := h.2 htask
  obtain ⟨hafter, hstays⟩ := hclosed hbefore
  exact ⟨hafter, hstays hdrained⟩

/-- One who has not come to shut the pool down does not wait for it. -/
theorem Fits.closes {pool : Pool Dispatch} {a : Actor} (h : a.Fits)
    (horigin : ∀ t, a.origin ≠ .shutdown t) : a.Closes pool := by
  cases h with
  | shutdown origin | drained origin => exact absurd rfl (horigin origin)
  | publishing | running | published | batch | waiting | batched | background | gone =>
    exact ⟨by simp, by simp⟩

/-- One who shuts the pool down goes on when the pool is closed, and leaves when it is drained. -/
theorem closes_of_step {choice : ℕ} {g g' : Gateway} {a : Actor} {task : Gateway.Task}
    (hfits : a.Fits) (hcloses : a.Closes g.pool)
    (hstep : a.task.stepBy (Dispatch.stepOne choice) g = some (task, g')) :
    Closes g'.pool ⟨a.origin, task⟩ := by
  by_cases horigin : ∀ t, a.origin ≠ .shutdown t
  · exact (turned_of_step hfits hstep).1.closes horigin
  cases hfits with
  | shutdown origin t =>
    obtain ⟨⟨turn, pool⟩, hturn, heq⟩ := Option.map_eq_some_iff.mp hstep
    obtain ⟨rfl, rfl⟩ := Prod.mk.inj heq
    obtain ⟨deadline, rfl, rfl⟩ | ⟨deadline, rfl, hdrained, rfl, rfl⟩ | ⟨rfl, rfl⟩ :=
      Shutdown.step_cases hturn
    · exact ⟨fun _ _ ↦ rfl, by simp [Gateway.Task.ofTurn]⟩
    · exact ⟨by simp [Gateway.Task.ofTurn], fun _ ↦ ⟨hcloses.1 deadline rfl, hdrained⟩⟩
    · exact ⟨by simp [Gateway.Task.ofTurn], by simp [Gateway.Task.ofTurn]⟩
  | drained => exact absurd hstep (by simp [Gateway.Task.stepBy])
  | publishing | running | published | batch | waiting | batched | background | gone =>
    exact absurd (by simp) horigin

/-- Those who come have taken nothing yet. -/
theorem new_of_comes {task : Gateway.Task} (hcomes : deliveries.comes task) :
    (new task).Fits ∧ task.jobs = [] ∧ task.role = .outsider ∧
      (new task).accepted ++ (new task).lent = [] := by
  obtain ⟨n, rfl⟩ | ⟨options, notifications, rfl⟩ | rfl := hcomes
  · exact ⟨.publishing n, rfl, rfl, rfl⟩
  · exact ⟨.batch (by simp [Batch.new]) (fun _ ↦ rfl) rfl, rfl, rfl, rfl⟩
  · exact ⟨.shutdown .begun .begun, rfl, rfl, rfl⟩

end Actor

/-! ### Gateways that were built -/

namespace Gateway

variable {b : Blueprint} {g : Gateway}

/-- What is assembled of a blueprint. -/
theorem assemble_eq {types : TypeRegistry} (h : assemble b types = .ok g) :
    Pool.new b.config.pool = .ok g.pool ∧ g.depot.letters = b.letters ∧
      g.depot.clock = {} := by
  unfold assemble at h
  split at h
  · exact absurd h (by simp)
  split at h
  · exact absurd h (by simp)
  split at h
  · exact absurd h (by simp)
  rename_i pool hpool
  obtain rfl := Except.ok.inj h
  exact ⟨hpool, rfl, rfl⟩

/-- A gateway that was built of a blueprint has the store of the blueprint and an empty pool, which
has core workers if it is bounded. -/
theorem build_eq (h : (build b).1 = .ok g) :
    Pool.new b.config.pool = .ok g.pool ∧ g.depot.letters = b.letters ∧ g.depot.clock = {} ∧
      b.config.pool.invalid? = none := by
  unfold Gateway.build at h
  split at h
  · exact absurd h (by simp)
  · rename_i hvalid
    have hpool : b.config.pool.invalid? = none := by
      cases hinvalid : b.config.pool.invalid? with
      | none => rfl
      | some complaint => simp [Config.invalid?, hinvalid, GateSettings.about] at hvalid
    simp only at h
    split at h
    · exact absurd h (by simp)
    · obtain ⟨hnew, hletters, hclock⟩ := assemble_eq h
      exact ⟨hnew, hletters, hclock, hpool⟩

end Gateway

/-! ### All moves -/

namespace Session

variable {s s' : Session DeliveryNote} {place choice : ℕ} {a : Actor} {task : Gateway.Task}
  {g : Gateway} {d₀ : Depot}

theorem Conserved.turned (h : s.Conserved d₀) (hactor : s.actors[place]? = some a)
    (hstep : a.task.stepBy (Dispatch.stepOne choice) s.gateway = some (task, g)) :
    (s.turned place a task g (deliveries.note choice a.task s.gateway)).Conserved d₀ := by
  have ha := List.mem_of_getElem? hactor
  obtain ⟨hfits, hturned⟩ := Actor.turned_of_step (h.fits a ha) hstep
  generalize deliveries.note choice a.task s.gateway = notes at hturned
  have hothers := reassigned_turned task g notes hactor
  obtain ⟨hstaffed, hsettings⟩ := hturned.staffed h.staffed h.core hothers
  have hmembers : ∀ b ∈ s.actors.set place ⟨a.origin, task⟩,
      b ∈ s.actors ∨ b = ⟨a.origin, task⟩ := fun b hb ↦ List.mem_or_eq_of_mem_set hb
  refine ⟨fun b hb ↦ ?_, hstaffed, ?_, ?_, fun T p ↦ ?_, fun b hb ↦ ?_⟩
  · obtain hb | rfl := hmembers b hb
    · exact h.fits b hb
    · exact hfits
  · change g.pool.settings.mode = .bounded → 1 ≤ g.pool.settings.coreWorkers
    rw [hsettings]
    exact h.core
  · rw [log_turned]
    exact hturned.ledger h.ledger
  · have hbefore := h.balanced T p
    have hmoved := hturned.balanced h.ledger.memory h.staffed h.core hothers T p
    rw [h.ledger.since.routing] at hmoved
    -- the move balances what it changes, and the other actors hold what they held
    have hdue := due_turned task g notes hactor T d₀.routing p
    have howed := owed_turned task g notes hactor T d₀.routing p
    rw [log_turned, List.flatMap_append, List.flatMap_append, List.countP_append,
      List.countP_append]
    omega
  · obtain hb | rfl := hmembers b hb
    · exact (h.closes b hb).mono hturned.closed
    · exact Actor.closes_of_step (h.fits a ha) (h.closes a ha) hstep

/-- The tasks that the pool has started carry the jobs that they were started with. -/
theorem Conserved.begun (h : s.Conserved d₀) : s.begun.Conserved d₀ := by
  have hnew : s.gateway.takeFresh.1.map Actor.new =
      s.gateway.pool.fresh.map fun t ↦ Actor.new (.background t) := List.map_map
  have hjobs : s.gateway.takeFresh.2.pool.jobs = s.gateway.pool.queue := List.append_nil _
  rw [Session.begun, hnew]
  refine ⟨fun b hb ↦ ?_, h.staffed.takeFresh fun r ↦ ?_, h.core, h.ledger, fun T p ↦ ?_,
    fun b hb ↦ ?_⟩
  · obtain hb | hb := List.mem_append.mp hb
    · exact h.fits b hb
    · obtain ⟨t, ht, rfl⟩ := List.mem_map.mp hb
      exact .background (h.staffed.patient t ht)
  · rw [roles, roles, List.countP_append, List.countP_map]
    rfl
  · have hbefore := h.balanced T p
    have howed : (s.gateway.pool.fresh.map fun t ↦ Actor.new (.background t)).flatMap
        (Actor.owed T d₀.routing) =
        (s.gateway.pool.fresh.flatMap PoolTask.jobs).flatMap (Dispatch.held T d₀.routing) := by
      rw [List.flatMap_map, List.flatMap_assoc]
      rfl
    have hdue : (s.gateway.pool.fresh.map fun t ↦ Actor.new (.background t)).flatMap
        (Actor.due T d₀.routing) = [] := by
      rw [List.flatMap_map]
      exact List.flatMap_eq_nil_iff.mpr fun _ _ ↦ rfl
    rw [owed, due, Pool.jobs, List.flatMap_append] at hbefore
    rw [owed, due, hjobs, List.flatMap_append, List.flatMap_append, howed, hdue, List.append_nil]
    simp only [List.countP_append] at hbefore ⊢
    change (s.log.flatMap T.taken).countP p + _ = _ + (s.log.flatMap T.brought).countP p
    omega
  · obtain hb | hb := List.mem_append.mp hb
    · exact (h.closes b hb).mono fun hclosed ↦ ⟨hclosed, id⟩
    · obtain ⟨t, ht, rfl⟩ := List.mem_map.mp hb
      exact ⟨by simp [Actor.new], by simp [Actor.new]⟩

/-- One who comes brings a notification that is not taken yet. -/
theorem Conserved.comes (h : s.Conserved d₀) (hcomes : deliveries.comes task) :
    Conserved d₀ { s with actors := s.actors ++ [.new task] } := by
  obtain ⟨hfits, hjobs, hrole, htaken⟩ := Actor.new_of_comes hcomes
  have howed : ∀ T, (Actor.new task).owed T d₀.routing = [] := fun T ↦ Actor.owed_of_idle hjobs
  have hdue : ∀ T, (Actor.new task).due T d₀.routing = [] := by
    intro T
    rw [Actor.due, htaken, List.flatMap_nil]
  have hmembers : ∀ b ∈ s.actors ++ [.new task], b ∈ s.actors ∨ b = .new task := by
    intro b hb
    rwa [List.mem_append, List.mem_singleton] at hb
  refine ⟨fun b hb ↦ ?_, h.staffed.congr fun r hr ↦ ?_, h.core, h.ledger, fun T p ↦ ?_,
    fun b hb ↦ ?_⟩
  · obtain hb | rfl := hmembers b hb
    · exact h.fits b hb
    · exact hfits
  · rw [roles, List.countP_append, List.countP_singleton]
    simp [Actor.new, hrole, hr.symm, roles]
  · have hbefore := h.balanced T p
    rw [owed, due] at hbefore
    rw [owed, due, List.flatMap_append, List.flatMap_append, List.flatMap_singleton,
      List.flatMap_singleton, howed, hdue, List.append_nil, List.append_nil]
    exact hbefore
  · obtain hb | rfl := hmembers b hb
    · exact h.closes b hb
    · obtain ⟨n, rfl⟩ | ⟨options, notifications, rfl⟩ | rfl := hcomes <;>
        exact ⟨by simp [Actor.new], by simp [Actor.new]⟩

/-- Every move of a session conserves. -/
theorem Conserved.step (h : s.Conserved d₀) (hmove : Move deliveries s s') : s'.Conserved d₀ := by
  cases hmove with
  | turn hactor hstep => exact h.turned hactor hstep
  | begin => exact h.begun
  | come hcomes => exact h.comes hcomes
  | pass =>
    exact ⟨h.fits, h.staffed, h.core, h.ledger.passes ⟨rfl, Nat.le_refl _⟩ rfl fun _ ↦ rfl,
      h.balanced, h.closes⟩

/-- A gateway that was built over a store in memory, before anyone has come. -/
theorem conserved_start {b : Blueprint} (hbuild : (Gateway.build b).1 = .ok g)
    (hmemory : b.letters.faults = {}) : Conserved g.depot ⟨g, [], []⟩ := by
  obtain ⟨hpool, hletters, -, hvalid⟩ := Gateway.build_eq hbuild
  obtain ⟨hsettings, hjobs, hstaffed⟩ := Pool.new_eq hpool
  refine ⟨by simp, hstaffed, fun hbounded ↦ ?_, .start (hletters ▸ hmemory), fun T p ↦ ?_,
    by simp⟩
  · rw [hsettings] at hbounded ⊢
    exact PoolSettings.core_of_valid hvalid hbounded
  · rw [owed, hjobs]
    rfl

end Session

end Courier

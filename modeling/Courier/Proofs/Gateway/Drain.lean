import Courier.Proofs.Gateway.Conservation

/-!
# What a drained gateway has done

At every moment the deliveries that have ended are some of those that are due for the notifications
taken so far (`Session.Conserved.endings_subperm`), and only these were sent
(`Session.Conserved.sends_taken`). A drained pool leaves no one with a job
(`Session.Conserved.idle`), so that then the deliveries that have ended are all of them, and a
closed pool stays drained and sends nothing (`Session.Conserved.still`).
`Session.accepted_delivered_once` joins these.
-/

set_option autoImplicit false
set_option relaxedAutoImplicit false

namespace Courier

/-! ### Attempts and deliveries -/

/-- Each attempt of a delivery counts as the delivery does. -/
theorem Dispatch.held_attempts_subset (r : RoutingTable) (t : Dispatch) :
    t.held .attempts r ⊆ t.held .deliveries r := by
  intro parcel hparcel
  cases t with
  | pending n =>
    rw [held_attempts] at hparcel
    exact absurd hparcel (List.not_mem_nil)
  | delivering deliveries =>
    obtain ⟨turn, hturn, hmem⟩ := List.mem_flatMap.mp hparcel
    refine List.mem_flatMap.mpr ⟨turn, hturn, ?_⟩
    cases turn with
    | going t => exact List.mem_singleton.mpr (List.eq_of_mem_replicate hmem)
    | done report => exact absurd hmem List.not_mem_nil

/-- A delivery that has ended after some attempts has ended. -/
theorem DeliveryNote.tries_subset_endings (note : DeliveryNote) : note.tries ⊆ note.endings := by
  intro parcel hparcel
  cases note with
  | sent => exact hparcel
  | ended => exact List.mem_singleton.mpr (List.eq_of_mem_replicate hparcel)

/-! ### Those without a job -/

namespace Actor

/-- One who is neither of the pool nor dispatching for it has no job. -/
theorem Fits.idle {a : Actor} (h : a.Fits) (hrole : a.task.role = .outsider) :
    a.task.jobs = [] ∧ a.lent = [] := by
  cases h with
  | publishing | published | batched | shutdown | drained | gone => exact ⟨rfl, rfl⟩
  | running | waiting => exact absurd hrole (by simp [Gateway.Task.role])
  | @batch b t hphase =>
    obtain ⟨hjobs, -, htaken⟩ := batch_idle b hphase
    exact ⟨hjobs, List.append_right_eq_self.mp htaken⟩
  | @background origin t =>
    cases t <;> exact absurd hrole (by simp [Gateway.Task.role, PoolTask.role])

end Actor

namespace Session

variable {s s' : Session DeliveryNote} {d₀ : Depot}

/-! ### At every moment -/

theorem due_deliveries (r : RoutingTable) : s.due .deliveries r = s.taken.flatMap r.parcels := by
  rw [taken, List.flatMap_assoc]
  exact List.flatMap_congr fun a _ ↦ List.flatMap_congr fun n _ ↦ Dispatch.held_deliveries r n

theorem due_attempts (r : RoutingTable) : s.due .attempts r = [] := by
  refine List.flatMap_eq_nil_iff.mpr fun a _ ↦ List.flatMap_eq_nil_iff.mpr fun n _ ↦ ?_
  exact Dispatch.held_attempts r n

/-- What was taken out and what is owed is what is due and what was brought in. -/
theorem Conserved.perm (h : s.Conserved d₀) (T : Tally) :
    (s.log.flatMap T.taken ++ s.owed T d₀.routing).Perm
      (s.due T d₀.routing ++ s.log.flatMap T.brought) := by
  refine perm_of_countP fun p ↦ ?_
  rw [List.countP_append, List.countP_append]
  exact h.balanced T p

/-- The deliveries that have ended and those that are owed are those of the notifications taken. -/
theorem Conserved.deliveries_perm (h : s.Conserved d₀) :
    (s.log.flatMap DeliveryNote.endings ++ s.owed .deliveries d₀.routing).Perm
      (s.taken.flatMap d₀.routing.parcels) := by
  have hperm := h.perm .deliveries
  have hnone : s.log.flatMap Tally.deliveries.brought = [] :=
    List.flatMap_eq_nil_iff.mpr fun _ _ ↦ rfl
  rwa [due_deliveries, hnone, List.append_nil] at hperm

/-- The attempts of deliveries that have ended and those of deliveries that are owed are those made.
-/
theorem Conserved.attempts_perm (h : s.Conserved d₀) :
    (s.log.flatMap DeliveryNote.tries ++ s.owed .attempts d₀.routing).Perm
      (s.log.flatMap DeliveryNote.sends) := by
  have hperm := h.perm .attempts
  rwa [due_attempts, List.nil_append] at hperm

/-- No delivery ends that is not due for a notification that was taken, and none ends more often. -/
theorem Conserved.endings_subperm (h : s.Conserved d₀) :
    (s.log.flatMap DeliveryNote.endings).Subperm (s.taken.flatMap d₀.routing.parcels) :=
  (List.sublist_append_left _ _).subperm.trans h.deliveries_perm.subperm

/-- Nothing is sent but notifications that were taken, to their targets. -/
theorem Conserved.sends_taken (h : s.Conserved d₀) {parcel : Parcel}
    (hparcel : parcel ∈ s.log.flatMap DeliveryNote.sends) :
    parcel ∈ s.taken.flatMap d₀.routing.parcels := by
  refine h.deliveries_perm.mem_iff.mp (List.mem_append.mpr ?_)
  obtain htried | howed := List.mem_append.mp (h.attempts_perm.mem_iff.mpr hparcel)
  · obtain ⟨note, hnote, hmem⟩ := List.mem_flatMap.mp htried
    exact .inl (List.mem_flatMap.mpr ⟨note, hnote, note.tries_subset_endings hmem⟩)
  · refine .inr (List.mem_append.mpr ?_)
    obtain hpool | hactors := List.mem_append.mp howed
    · obtain ⟨job, hjob, hmem⟩ := List.mem_flatMap.mp hpool
      exact .inl (List.mem_flatMap.mpr ⟨job, hjob, job.held_attempts_subset _ hmem⟩)
    · obtain ⟨a, ha, hmem⟩ := List.mem_flatMap.mp hactors
      obtain ⟨job, hjob, hmem⟩ := List.mem_flatMap.mp hmem
      refine .inr (List.mem_flatMap.mpr ⟨a, ha, List.mem_flatMap.mpr ⟨job, hjob, ?_⟩⟩)
      exact job.held_attempts_subset _ hmem

/-! ### When the pool is drained -/

/-- At a drained pool no one has a job. -/
theorem Conserved.idle (h : s.Conserved d₀) (hdrained : s.gateway.pool.isDrained = true) :
    s.gateway.pool.queue = [] ∧ s.gateway.pool.fresh = [] ∧
      ∀ a ∈ s.actors, a.task.jobs = [] ∧ a.lent = [] := by
  obtain ⟨hqueue, hfresh, hothers⟩ := h.staffed.idle hdrained
  refine ⟨hqueue, hfresh, fun a ha ↦ ?_⟩
  -- whoever has a job is counted by the pool, and the pool counts no one
  have hrole : a.task.role = .outsider := by
    by_contra hrole
    have hnone := List.countP_eq_zero.mp (hothers _ hrole) a ha
    exact hnone (decide_eq_true rfl)
  exact (h.fits a ha).idle hrole

/-- A drained pool and those who are there owe nothing. -/
theorem Conserved.owed_of_drained (h : s.Conserved d₀)
    (hdrained : s.gateway.pool.isDrained = true) (T : Tally) (r : RoutingTable) :
    s.owed T r = [] := by
  obtain ⟨hqueue, hfresh, hidle⟩ := h.idle hdrained
  have hactors : s.actors.flatMap (Actor.owed T r) = [] :=
    List.flatMap_eq_nil_iff.mpr fun a ha ↦ Actor.owed_of_idle (hidle a ha).1
  rw [owed, Pool.jobs, hqueue, hfresh, hactors]
  rfl

/-- At a drained pool no notification is with its caller. -/
theorem Conserved.taken_of_drained (h : s.Conserved d₀)
    (hdrained : s.gateway.pool.isDrained = true) : s.taken = s.accepted := by
  obtain ⟨-, -, hidle⟩ := h.idle hdrained
  refine List.flatMap_congr fun a ha ↦ ?_
  rw [(hidle a ha).2, List.append_nil]

/-- A session whose pool was closed and is drained. -/
structure Drained (s : Session DeliveryNote) : Prop where
  closed : s.gateway.pool.closed = true
  drained : s.gateway.pool.isDrained = true

/-- Nothing is sent and nothing is stored after the pool was closed and drained. -/
theorem Conserved.still (h : s.Conserved d₀) (hdrained : s.Drained)
    (hmove : Move deliveries s s') :
    s'.Drained ∧ s'.log = s.log ∧ s'.gateway.depot.letters = s.gateway.depot.letters ∧
      s'.gateway.depot.senders = s.gateway.depot.senders := by
  obtain ⟨hqueue, hfresh, hidle⟩ := h.idle hdrained.drained
  cases hmove with
  | @turn place choice a task g hactor hstep =>
    have ha := List.mem_of_getElem? hactor
    obtain ⟨-, hturned⟩ := Actor.turned_of_step (h.fits a ha) hstep
    obtain ⟨hclosed, hstays⟩ := hturned.closed hdrained.closed
    have hjobs := (hidle a ha).1
    refine ⟨⟨hclosed, hstays hdrained.drained⟩, ?_, ?_⟩
    · rw [log_turned, Actor.note_of_idle hjobs]
      rfl
    · change g.depot.letters = _ ∧ g.depot.senders = _
      exact hturned.still hdrained.closed hjobs
  | begin | come | pass => exact ⟨⟨hdrained.closed, hdrained.drained⟩, rfl, rfl, rfl⟩

/-- A session whose pool was closed and is drained stays as it is. -/
theorem Conserved.still_reaches (h : s.Conserved d₀) (hdrained : s.Drained)
    (hreaches : Reaches deliveries s s') :
    s'.log = s.log ∧ s'.gateway.depot.letters = s.gateway.depot.letters ∧
      s'.gateway.depot.senders = s.gateway.depot.senders := by
  have hkeeps : s'.Conserved d₀ ∧ s'.Drained ∧ s'.log = s.log ∧
      s'.gateway.depot.letters = s.gateway.depot.letters ∧
      s'.gateway.depot.senders = s.gateway.depot.senders := by
    induction hreaches with
    | refl => exact ⟨h, hdrained, rfl, rfl, rfl⟩
    | tail _ hlast ih =>
      obtain ⟨hconserved, hstill, hlog, hletters, hsenders⟩ := ih
      obtain ⟨hafter, hlog', hletters', hsenders'⟩ := hconserved.still hstill hlast
      exact ⟨hconserved.step hlast, hafter, hlog'.trans hlog, hletters'.trans hletters,
        hsenders'.trans hsenders⟩
  exact hkeeps.2.2

/-! ### The main result -/

/-- No loss and no duplication, whatever the settings, the routes and the replies of senders, and in
whatever order those who publish and shut down and the tasks of the pool move, over a store in
memory.

At every moment the deliveries that have ended are some of those due for the notifications taken:
those accepted, and those that their callers are still dispatching. Only these were sent. A delivery
has ended either with a success as the sender's last reply and no dead letter, or with a pending
dead letter of its own, under an identifier handed out since; all other entries of the store are
what they were. Each sender's record has grown by the sends noted.

Once a shutdown has ended with true, the deliveries that have ended are those of the notifications
accepted, one for each target, and all attempts to send were theirs. From then on nothing is sent
and nothing is stored. -/
theorem accepted_delivered_once {b : Blueprint} {g : Gateway}
    (hbuild : (Gateway.build b).1 = .ok g) (hmemory : b.letters.faults = {})
    (hreaches : Reaches deliveries ⟨g, [], []⟩ s) :
    (s.log.flatMap DeliveryNote.endings).Subperm (s.taken.flatMap g.depot.routing.parcels) ∧
    (∀ parcel ∈ s.log.flatMap DeliveryNote.sends,
      parcel ∈ s.taken.flatMap g.depot.routing.parcels) ∧
    (∀ note ∈ s.log, note.Accounted s.gateway.depot.letters) ∧
    ((s.log.filterMap DeliveryNote.letter?).Nodup ∧
      ∀ id ∈ s.log.filterMap DeliveryNote.letter?, Clock.idBase ≤ id.value) ∧
    (∀ id, id ∉ s.log.filterMap DeliveryNote.letter? →
      s.gateway.depot.letters.get? id = b.letters.get? id) ∧
    (∀ platform, s.gateway.depot.sentTo platform =
      s.log.filterMap (DeliveryNote.record? platform) ++ g.depot.sentTo platform) ∧
    ∀ a ∈ s.actors, a.task = .ended (.drained true) →
      (s.log.flatMap DeliveryNote.endings).Perm (s.accepted.flatMap g.depot.routing.parcels) ∧
      (s.log.flatMap DeliveryNote.sends).Perm (s.log.flatMap DeliveryNote.tries) ∧
      ∀ s', Reaches deliveries s s' → s'.log = s.log ∧
        s'.gateway.depot.letters = s.gateway.depot.letters ∧
        s'.gateway.depot.senders = s.gateway.depot.senders := by
  have hletters := (Gateway.build_eq hbuild).2.1
  have h : s.Conserved g.depot :=
    hreaches.keeps (fun _ _ h hmove ↦ h.step hmove) (conserved_start hbuild hmemory)
  refine ⟨h.endings_subperm, fun parcel ↦ h.sends_taken, h.ledger.accounted,
    ⟨h.ledger.distinct, fun id hid ↦ ?_⟩, fun id hid ↦ ?_, h.ledger.sends, fun a ha htask ↦ ?_⟩
  · exact Nat.le_trans (Nat.le_add_right _ _) (h.ledger.minted id hid).1
  · rw [h.ledger.kept id hid, hletters]
  · obtain ⟨hclosed, hdrained⟩ := (h.closes a ha).2 htask
    have hendings := h.deliveries_perm
    have hattempts := h.attempts_perm
    rw [h.owed_of_drained hdrained, List.append_nil] at hendings hattempts
    rw [h.taken_of_drained hdrained] at hendings
    exact ⟨hendings, hattempts.symm, fun s' ↦ h.still_reaches ⟨hclosed, hdrained⟩⟩

/-- A gateway with one worker and room for one job, whose notifications go to a platform with a
sender and to one without. -/
def rushed : Blueprint where
  config := { pool := { coreWorkers := 1, maxWorkers := 1, queueCapacity := 1 } }
  formatters := [(⟨"slack", none⟩, { format := fun _ n ↦ .payload (.string n.typeId) })]
  senders := [("slack", .log)]
  routing := some
    { fallback :=
      [⟨"slack", "alerts", some "https://hooks.slack/alerts", true⟩,
        ⟨"pager", "duty", some "https://pager/duty", true⟩] }

/-- Two notifications are published and the pool is shut down. -/
def rush : List Actor :=
  [.new (.submit (.begun (.pending ⟨"build.failed", "ci", ⟨0, 0⟩, .null, []⟩))),
    .new (.submit (.begun (.pending ⟨"build.fixed", "ci", ⟨1, 0⟩, .null, []⟩))),
    .new (.shutdown .begun)]

/-- The first notification is queued and the second left to its caller, who is done with it before
the shutdown begins; then the worker does the first. Both reach one target and leave a dead letter
for the other. -/
theorem accepted_delivered_once_rushed :
    ∃ g s, (Gateway.build rushed).1 = .ok g ∧ Reaches deliveries ⟨g, [], []⟩ s ∧
      s.accepted.map Notification.typeId = ["build.failed", "build.fixed"] ∧
      s.gateway.depot.letters.entries.length = 2 ∧
      (s.log.flatMap DeliveryNote.endings).Perm (s.accepted.flatMap g.depot.routing.parcels) ∧
      ∀ s', Reaches deliveries s s' → s'.log = s.log := by
  have hrun : ((Gateway.build rushed).1.toOption.bind fun g ↦
      (play deliveries [(0, 0), (1, 0)] ⟨g, rush, []⟩).bind fun s ↦
        (play deliveries [(1, 0), (1, 0), (1, 0), (1, 0), (1, 0), (1, 1), (1, 0), (2, 0), (3, 0),
          (3, 0), (3, 0), (3, 0), (3, 0), (3, 0), (3, 0), (3, 1), (3, 0), (3, 0), (2, 0)]
          s.begun).map fun s ↦
            (s.accepted.map Notification.typeId, s.gateway.depot.letters.entries.length,
              s.actors[2]?)) =
      some (["build.failed", "build.fixed"], 2,
        some ⟨.shutdown .begun, .ended (.drained true)⟩) := by rfl
  obtain ⟨g, hg, hrun⟩ := Option.bind_eq_some_iff.mp hrun
  obtain ⟨s, hs, hrun⟩ := Option.bind_eq_some_iff.mp hrun
  obtain ⟨s', hs', heq⟩ := Option.map_eq_some_iff.mp hrun
  obtain ⟨haccepted, hletters, hdrained⟩ : s'.accepted.map Notification.typeId = _ ∧
    s'.gateway.depot.letters.entries.length = 2 ∧ s'.actors[2]? = _ := by simpa using heq
  have hbuild : (Gateway.build rushed).1 = .ok g := by
    cases h : (Gateway.build rushed).1 with
    | error reason => simp [h, Except.toOption] at hg
    | ok built => rw [h] at hg; exact congrArg _ (Option.some.inj hg)
  have hcome : Reaches deliveries ⟨g, [], []⟩ ⟨g, rush, []⟩ :=
    .head (.come (.inl ⟨_, rfl⟩))
      (.head (.come (.inl ⟨_, rfl⟩)) (.single (.come (.inr (.inr rfl)))))
  have hreaches : Reaches deliveries ⟨g, [], []⟩ s' :=
    (hcome.trans (reaches_of_play hs)).trans (.head .begin (reaches_of_play hs'))
  obtain ⟨-, -, -, -, -, -, hended⟩ := accepted_delivered_once hbuild rfl hreaches
  obtain ⟨hendings, -, hstill⟩ := hended _ (List.mem_of_getElem? hdrained) rfl
  exact ⟨g, s', hbuild, hreaches, haccepted, hletters, hendings, fun s' h ↦ (hstill s' h).1⟩

end Session

end Courier

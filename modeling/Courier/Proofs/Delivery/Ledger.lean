import Courier.Proofs.Counting
import Courier.Proofs.Delivery.Account
import Mathlib.Data.List.Basic
import Mathlib.Data.List.Nodup

/-!
# The ledger of a depot

The ledger compares a depot with what it was at first and with what was noted of deliveries since
(`Ledger`): each sender's record has grown by the sends noted, each dead letter noted is in the
store under an identifier of its own, and all other entries are what they were. Every move of a
dispatch keeps the ledger (`Dispatch.ledger_of_stepOne`).

A `Tally` counts parcels with deliveries under way and in notes, so that moves only carry them from
the one to the other (`Dispatch.balanced_of_stepOne`). `Tally.deliveries` counts each delivery once,
and `Tally.attempts` once for each of its attempts to send.
-/

set_option autoImplicit false
set_option relaxedAutoImplicit false

namespace Courier

/-! ### What notes say -/

namespace DeliveryNote

/-- The parcel of a delivery that has ended. -/
def endings : DeliveryNote → List Parcel
  | .ended n report _ _ => [(n, report.target)]
  | .sent .. => []

/-- The parcel of a delivery that has ended, once for each attempt. -/
def tries : DeliveryNote → List Parcel
  | .ended n report attempts _ => List.replicate attempts (n, report.target)
  | .sent .. => []

/-- The parcel of an attempt to send. -/
def sends : DeliveryNote → List Parcel
  | .sent n target _ => [(n, target)]
  | .ended .. => []

/-- What a platform's sender has on record of an attempt. -/
def record? (platform : String) : DeliveryNote → Option Sent
  | .sent _ target record => if platform = target.platform then some record else none
  | .ended .. => none

/-- The dead letter that a delivery has left. -/
def letter? : DeliveryNote → Option EntryId
  | .ended _ report _ _ => report.deadLetter
  | .sent .. => none

/-- A delivery that has ended was delivered at its last attempt, the sender's reply to it being a
success, and left no dead letter; or it failed and left one, which is in the store, pending, with
the target and what is kept of the notification. -/
def Accounted (letters : DeadLetterStore) : DeliveryNote → Prop
  | .ended n report attempts last =>
    (report.failure = none ∧ report.deadLetter = none ∧ report.attempts = attempts ∧
      ∃ r : SendResult, last = some (.result r) ∧ r.success = true) ∨
    ∃ (m : Moment) (payload : Option Json) (failure : DeliveryFailure),
      report.failure = some failure ∧ report.deadLetter = some m.freshId ∧
      letters.get? m.freshId =
        some (.new m n report.target payload failure.message report.attempts)
  | .sent .. => True

end DeliveryNote

/-- A depot as it is, as it was at first, and what was noted in between. -/
structure Ledger (d₀ d : Depot) (notes : List DeliveryNote) : Prop where
  since : d₀.Passes d
  memory : d.letters.faults = {}
  sends : ∀ p, d.sentTo p = notes.filterMap (DeliveryNote.record? p) ++ d₀.sentTo p
  minted : ∀ id ∈ notes.filterMap DeliveryNote.letter?,
    Clock.idBase + d₀.clock.ticks ≤ id.value ∧ id.value < Clock.idBase + d.clock.ticks
  distinct : (notes.filterMap DeliveryNote.letter?).Nodup
  kept : ∀ id, id ∉ notes.filterMap DeliveryNote.letter? → d.letters.get? id = d₀.letters.get? id
  accounted : ∀ note ∈ notes, note.Accounted d.letters

namespace Ledger

variable {d₀ d site : Depot} {notes : List DeliveryNote}

theorem start (hmemory : d.letters.faults = {}) : Ledger d d [] :=
  ⟨⟨rfl, Nat.le_refl _⟩, hmemory, fun _ ↦ rfl, by simp, .nil, fun _ _ ↦ rfl, by simp⟩

/-- Identifiers that were handed out stay so. -/
theorem minted_of_passes (h : Ledger d₀ d notes) (hpasses : d.Passes site) :
    ∀ id ∈ notes.filterMap DeliveryNote.letter?,
      Clock.idBase + d₀.clock.ticks ≤ id.value ∧ id.value < Clock.idBase + site.clock.ticks := by
  intro id hid
  obtain ⟨hlow, hhigh⟩ := h.minted id hid
  exact ⟨hlow, Nat.lt_of_lt_of_le hhigh (Nat.add_le_add_left hpasses.ticks _)⟩

/-- A move that neither sends nor stores anything keeps the ledger. -/
theorem passes (h : Ledger d₀ d notes) (hpasses : d.Passes site)
    (hletters : site.letters = d.letters) (hsent : ∀ p, site.sentTo p = d.sentTo p) :
    Ledger d₀ site notes where
  since := h.since.trans hpasses
  memory := hletters ▸ h.memory
  sends p := (hsent p).trans (h.sends p)
  minted := h.minted_of_passes hpasses
  distinct := h.distinct
  kept id hid := hletters ▸ h.kept id hid
  accounted note hnote := hletters ▸ h.accounted note hnote

/-- What is on the ledger stays accounted for when a letter under another identifier comes. -/
theorem accounted_holding {letters : DeadLetterStore} {e : DeadLetter} {note : DeliveryNote}
    (h : note.Accounted letters) (hfresh : note.letter? ≠ some e.id) :
    note.Accounted (letters.holding e) := by
  cases note with
  | sent => trivial
  | ended n report attempts last =>
    obtain hdelivered | ⟨m, payload, failure, hfailure, hid, hget⟩ := h
    · exact .inl hdelivered
    · have hne : m.freshId ≠ e.id := fun heq ↦ hfresh (hid.trans (congrArg some heq))
      refine .inr ⟨m, payload, failure, hfailure, hid, ?_⟩
      rw [DeadLetterStore.get?_holding, if_neg hne, hget]

/-- The move of a delivery keeps the ledger. -/
theorem moved {t : Delivery} {turn : Turn Delivery DeliveryReport} {noted : List DeliveryNote}
    (h : Ledger d₀ d notes) (hmoved : t.Moved d turn site noted) :
    Ledger d₀ site (noted ++ notes) := by
  cases hmoved with
  | goes _ _ hpasses hletters hsent => exact h.passes hpasses hletters hsent
  | sends _ _ hpasses hletters hsent =>
    exact
      { since := h.since.trans hpasses
        memory := hletters ▸ h.memory
        sends := fun p ↦ by
          rw [hsent, h.sends]
          by_cases hp : p = t.target.platform <;> simp [DeliveryNote.record?, hp]
        minted := h.minted_of_passes hpasses
        distinct := h.distinct
        kept := fun id hid ↦ hletters ▸ h.kept id hid
        accounted := fun note hnote ↦ by
          rw [hletters]
          obtain rfl | hnote := List.mem_cons.mp hnote
          · trivial
          · exact h.accounted note hnote }
  | delivers hsuccess hpasses hletters hsent =>
    have hafter := h.passes hpasses hletters hsent
    exact
      { hafter with
        accounted := fun note hnote ↦ by
          obtain rfl | hnote := List.mem_cons.mp hnote
          · exact .inl ⟨rfl, rfl, rfl, _, rfl, hsuccess⟩
          · exact hafter.accounted note hnote }
  | @fails m payload failure attempts last site hpasses hminted hspent hletters hsent =>
    -- the identifier is handed out now, and those on the ledger were handed out before
    have hfresh : m.freshId ∉ notes.filterMap DeliveryNote.letter? :=
      fun hmem ↦ absurd (h.minted _ hmem).2 (Nat.not_lt.mpr hminted)
    have hget := DeadLetterStore.get?_holding d.letters
      (.new m t.notification t.target payload failure.message attempts)
    exact
      { since := h.since.trans hpasses
        memory := hletters ▸ h.memory
        sends := fun p ↦ (hsent p).trans (h.sends p)
        minted := fun id hid ↦ by
          obtain rfl | hid := List.mem_cons.mp hid
          · have hlow := Nat.add_le_add_left h.since.ticks Clock.idBase
            exact ⟨Nat.le_trans hlow hminted, hspent⟩
          · exact h.minted_of_passes hpasses id hid
        distinct := h.distinct.cons hfresh
        kept := fun id hid ↦ by
          obtain ⟨hne, hid⟩ := not_or.mp (fun hmem ↦ hid (List.mem_cons.mpr hmem))
          rw [hletters, hget]
          exact (if_neg hne).trans (h.kept id hid)
        accounted := fun note hnote ↦ by
          rw [hletters]
          obtain rfl | hnote := List.mem_cons.mp hnote
          · exact .inr ⟨m, payload, failure, rfl, rfl, (hget _).trans (if_pos rfl)⟩
          · refine accounted_holding (h.accounted note hnote) fun heq ↦ hfresh ?_
            exact List.mem_filterMap.mpr ⟨note, hnote, heq⟩ }

end Ledger

/-! ### Tallies -/

/-- A count of parcels with deliveries under way and in notes. What a move takes from a delivery and
what its notes bring in is what it leaves and what its notes take out. -/
structure Tally where
  held : Delivery → List Parcel
  brought : DeliveryNote → List Parcel
  taken : DeliveryNote → List Parcel
  balanced : ∀ {t : Delivery} {d site : Depot} {turn : Turn Delivery DeliveryReport}
    {notes : List DeliveryNote}, t.Moved d turn site notes → ∀ p : Parcel → Bool,
    (notes.flatMap taken).countP p + (match turn with
      | .going next => (held next).countP p
      | .done _ => 0) = (held t).countP p + (notes.flatMap brought).countP p

namespace Tally

/-- Each delivery counts once. -/
def deliveries : Tally where
  held t := [t.parcel]
  brought _ := []
  taken := DeliveryNote.endings
  balanced hmoved p := by
    cases hmoved with
    | goes hparcel => simp [hparcel]
    | sends hparcel => simp [hparcel, DeliveryNote.endings]
    | delivers | fails => simp [DeliveryNote.endings, Delivery.parcel]

/-- Each delivery counts as often as it has tried to send. -/
def attempts : Tally where
  held t := List.replicate t.attempts t.parcel
  brought := DeliveryNote.sends
  taken := DeliveryNote.tries
  balanced hmoved p := by
    cases hmoved with
    | goes hparcel hattempts => simp [hparcel, hattempts]
    | sends hparcel hattempts =>
      simp only [hparcel, hattempts]
      rw [List.replicate_succ, List.countP_cons, ← List.countP_singleton]
      exact Nat.zero_add _
    | delivers | fails => simp [DeliveryNote.tries, DeliveryNote.sends, Delivery.parcel]

end Tally

/-- The parcels of a notification: one for each target. -/
def RoutingTable.parcels (r : RoutingTable) (n : Notification) : List Parcel :=
  (r.resolve n.typeId n.category).map (Prod.mk n)

/-! ### Dispatches -/

namespace Dispatch

variable {T : Tally} {d₀ d site : Depot}

/-- What a tally counts with a delivery that may have ended. -/
def heldBy (T : Tally) : Turn Delivery DeliveryReport → List Parcel
  | .going t => T.held t
  | .done _ => []

/-- What a tally counts with a dispatch. -/
def held (T : Tally) (r : RoutingTable) : Dispatch → List Parcel
  | .pending n => (r.resolve n.typeId n.category).flatMap fun target ↦
    T.held { notification := n, target }
  | .delivering deliveries => deliveries.flatMap (heldBy T)

/-- What a tally counts after a move of a dispatch. -/
def heldAfter (T : Tally) (r : RoutingTable) : Turn Dispatch (List DeliveryReport) → List Parcel
  | .going t => t.held T r
  | .done _ => []

/-- What is noted of the next move of a dispatch, if that is the move of the delivery at a place. -/
def notes (place : ℕ) (t : Dispatch) (d : Depot) : List DeliveryNote :=
  match t with
  | .pending _ => []
  | .delivering deliveries =>
    match deliveries[place]? with
    | some (.going t) => t.notes d
    | _ => []

/-- Each delivery counts once, and a notification that waits counts once for each target. -/
theorem held_deliveries (r : RoutingTable) (n : Notification) :
    held .deliveries r (.pending n) = r.parcels n :=
  List.map_eq_flatMap.symm

/-- A notification that waits was not sent. -/
theorem held_attempts (r : RoutingTable) (n : Notification) : held .attempts r (.pending n) = [] :=
  List.flatMap_eq_nil_iff.mpr fun _ _ ↦ rfl

/-- When all deliveries have ended, the reports are theirs. -/
theorem eq_map_of_reports {deliveries : List (Turn Delivery DeliveryReport)}
    {reports : List DeliveryReport} (h : reports? deliveries = some reports) :
    deliveries = reports.map .done := by
  induction deliveries generalizing reports with
  | nil =>
    obtain rfl := Option.some.inj h
    rfl
  | cons first rest ih =>
    cases first with
    | going t => cases h
    | done report =>
      obtain ⟨others, hothers, rfl⟩ := Option.map_eq_some_iff.mp h
      rw [List.map_cons, ← ih hothers]

theorem done_of_reports {deliveries : List (Turn Delivery DeliveryReport)}
    {reports : List DeliveryReport} (h : reports? deliveries = some reports) :
    ∀ turn ∈ deliveries, ∃ report, turn = .done report := by
  rw [eq_map_of_reports h]
  intro turn hturn
  obtain ⟨report, -, rfl⟩ := List.mem_map.mp hturn
  exact ⟨report, rfl⟩

/-- A dispatch that ends does so with the reports of its deliveries. -/
theorem eq_map_of_done {place : ℕ} {deliveries : List (Turn Delivery DeliveryReport)}
    {reports : List DeliveryReport}
    (h : stepOne place (.delivering deliveries) d = some (.done reports, site)) :
    deliveries = reports.map .done := by
  rw [stepOne] at h
  split at h
  · rename_i heq
    obtain rfl := Turn.done.inj (Prod.mk.inj (Option.some.inj h)).1
    exact eq_map_of_reports heq
  · obtain ⟨x, -, heq⟩ := Option.map_eq_some_iff.mp h
    cases heq

/-- One delivery moves, and the others stay what they are. -/
theorem stepAt_cases {place : ℕ} {deliveries after : List (Turn Delivery DeliveryReport)}
    (h : stepAt place deliveries d = some (after, site)) :
    ∃ t turn, deliveries[place]? = some (.going t) ∧ t.step d = some (turn, site) ∧
      after = deliveries.set place turn := by
  induction place generalizing deliveries after with
  | zero =>
    cases deliveries with
    | nil => simp [stepAt] at h
    | cons first rest =>
      cases first with
      | done report => simp [stepAt] at h
      | going t =>
        obtain ⟨⟨turn, d'⟩, hstep, heq⟩ := Option.map_eq_some_iff.mp h
        obtain ⟨rfl, rfl⟩ := Prod.mk.inj heq
        exact ⟨t, turn, rfl, hstep, rfl⟩
  | succ place ih =>
    cases deliveries with
    | nil => simp [stepAt] at h
    | cons first rest =>
      rw [stepAt] at h
      obtain ⟨⟨others, d'⟩, hstep, heq⟩ := Option.map_eq_some_iff.mp h
      obtain ⟨rfl, rfl⟩ := Prod.mk.inj heq
      obtain ⟨t, turn, ht, hturn, rfl⟩ := ih hstep
      exact ⟨t, turn, ht, hturn, rfl⟩

/-- The moves of a dispatch: it finds its targets, one of its deliveries moves, or it ends, and then
all of them have. -/
theorem stepOne_cases {place : ℕ} {t : Dispatch} {turn : Turn Dispatch (List DeliveryReport)}
    (h : stepOne place t d = some (turn, site)) :
    (∃ n, t = .pending n ∧ turn = .going (.delivering (start n d)) ∧ site = d) ∨
    (∃ deliveries delivery next, t = .delivering deliveries ∧
      deliveries[place]? = some (.going delivery) ∧ delivery.step d = some (next, site) ∧
      turn = .going (.delivering (deliveries.set place next))) ∨
    ∃ deliveries reports, t = .delivering deliveries ∧ turn = .done reports ∧ site = d ∧
      ∀ turn ∈ deliveries, ∃ report, turn = .done report := by
  cases t with
  | pending n =>
    obtain ⟨rfl, rfl⟩ := Prod.mk.inj (Option.some.inj h)
    exact .inl ⟨n, rfl, rfl, rfl⟩
  | delivering deliveries =>
    rw [stepOne] at h
    split at h
    · rename_i reports hreports
      obtain ⟨rfl, rfl⟩ := Prod.mk.inj (Option.some.inj h)
      exact .inr (.inr ⟨deliveries, reports, rfl, rfl, rfl, done_of_reports hreports⟩)
    · obtain ⟨⟨after, d'⟩, hstep, heq⟩ := Option.map_eq_some_iff.mp h
      obtain ⟨rfl, rfl⟩ := Prod.mk.inj heq
      obtain ⟨delivery, next, hdelivery, hnext, rfl⟩ := stepAt_cases hstep
      exact .inr (.inl ⟨deliveries, delivery, next, rfl, hdelivery, hnext, rfl⟩)

theorem notes_of_done {place : ℕ} {deliveries : List (Turn Delivery DeliveryReport)}
    (hdone : ∀ turn ∈ deliveries, ∃ report, turn = .done report) :
    notes place (.delivering deliveries) d = [] := by
  rw [notes]
  split
  · rename_i t ht
    obtain ⟨report, heq⟩ := hdone _ (List.mem_of_getElem? ht)
    exact absurd heq (by simp)
  · rfl

/-- Every move of a dispatch keeps the ledger. -/
theorem ledger_of_stepOne {notes : List DeliveryNote} {place : ℕ} {t : Dispatch}
    {turn : Turn Dispatch (List DeliveryReport)} (hledger : Ledger d₀ d notes)
    (h : stepOne place t d = some (turn, site)) :
    Ledger d₀ site (t.notes place d ++ notes) := by
  obtain ⟨n, rfl, -, rfl⟩ | ⟨deliveries, delivery, next, rfl, hdelivery, hnext, -⟩ |
    ⟨deliveries, reports, rfl, -, rfl, hdone⟩ := stepOne_cases h
  · exact hledger
  · rw [Dispatch.notes, hdelivery]
    exact hledger.moved (delivery.moved_of_step hledger.memory hnext)
  · rw [notes_of_done hdone]
    exact hledger

/-- Every move of a dispatch balances. -/
theorem balanced_of_stepOne (T : Tally) {place : ℕ} {t : Dispatch}
    {turn : Turn Dispatch (List DeliveryReport)} (hmemory : d.letters.faults = {})
    (h : stepOne place t d = some (turn, site)) (p : Parcel → Bool) :
    ((t.notes place d).flatMap T.taken).countP p + (heldAfter T d.routing turn).countP p =
      (t.held T d.routing).countP p + ((t.notes place d).flatMap T.brought).countP p := by
  obtain ⟨n, rfl, rfl, -⟩ | ⟨deliveries, delivery, next, rfl, hdelivery, hnext, rfl⟩ |
    ⟨deliveries, reports, rfl, rfl, rfl, hdone⟩ := stepOne_cases h
  · have hstart : heldAfter T d.routing
        (.going (.delivering (start n d)) : Turn Dispatch (List DeliveryReport)) =
        held T d.routing (.pending n) := by
      change (start n d).flatMap (heldBy T) = _
      rw [start, List.flatMap_map]
      rfl
    rw [hstart]
    exact Nat.zero_add _
  · have hnotes : Dispatch.notes place (.delivering deliveries) d = delivery.notes d := by
      rw [Dispatch.notes, hdelivery]
    have hbalanced := T.balanced (delivery.moved_of_step hmemory hnext) p
    have hcount := countP_flatMap_set hdelivery (heldBy T) p next
    rw [hnotes, heldAfter, held, held]
    rw [heldBy] at hcount
    cases next with
    | going next =>
      rw [heldBy] at hcount
      simp only at hbalanced
      omega
    | done report =>
      rw [heldBy, List.countP_nil] at hcount
      simp only at hbalanced
      omega
  · have hnone : deliveries.flatMap (heldBy T) = [] := by
      refine List.flatMap_eq_nil_iff.mpr fun turn hturn ↦ ?_
      obtain ⟨report, rfl⟩ := hdone turn hturn
      rfl
    rw [notes_of_done hdone, held, hnone]
    rfl

end Dispatch

end Courier

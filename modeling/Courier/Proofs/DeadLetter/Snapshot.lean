import Courier.Proofs.DeadLetter.Unsettled
import Courier.Proofs.Delivery.Exits
import Courier.Proofs.Json.Shape
import Courier.Slack.Message

/-!
# What a dead letter keeps of a notification

A dead letter keeps the type and the category of its notification and the text of its context. The
metadata and the time at which it occurred are not kept: a replay without a payload renders the
notification as one without metadata that occurred when the dead letter was made
(`Notification.kept`). Only formatters that look at neither are sure to render the same again
(`Formatter.Plain`); the one for Slack does so if it leaves out the line of category and time
(`Slack.formatter_plain`).

From the delivery to the replay: a delivery that says that it left a dead letter has stored it
(`Delivery.keeps_of_step`); in the store nothing but its state changes, whatever others do there
(`DeadLetterStore.Keeps.used`); and who claims it restores the notification from it
(`Replay.restore_eq`). The context is what its text is read as, which is the context itself if it is
not nested too deep and its numbers read back (`Json.Lasting.ofText`). Together these say what a
replay renders, `Replay.renders_what_was_kept`.

Numbers that are integers of 64 bits always read back, and every text does. A context without other
numbers that is nested no deeper than texts may be is therefore restored as it was, along with type
and category (`Replay.restores_context`).

`Depot.fragile` is a depot in which all deliveries crash; the notifications that are
`Replay.Altered` are rendered there otherwise for a replay than for their delivery.
-/

set_option autoImplicit false
set_option relaxedAutoImplicit false

namespace Courier

/-! ### What formatters look at -/

/-- What a dead letter keeps of a notification: it has lost its metadata, and occurred when the dead
letter was made. -/
def Notification.kept (n : Notification) (made : Timestamp) : Notification :=
  { n with occurredAt := made, metadata := [] }

/-- A formatter that looks neither at the metadata nor at the time of a notification. -/
def Formatter.Plain (f : Formatter) : Prop :=
  ∀ (types : TypeRegistry) (n : Notification) (occurredAt : Timestamp)
    (metadata : List (String × String)),
    f.format types { n with occurredAt, metadata } = f.format types n

/-- Messages for Slack are plain without the line of category and time. -/
theorem Slack.formatter_plain {style : Slack.Style} (h : style.contextBlock = false) :
    (Slack.formatter style).Plain := by
  intro types n occurredAt metadata
  simp only [Slack.formatter, Slack.format, Slack.message, Slack.body, h, Bool.false_eq_true,
    if_false]

theorem Depot.render_kept {d : Depot} {n : Notification} {platform : String}
    (h : ∀ f, d.formatters.resolve platform n.typeId = some f → f.Plain) (made : Timestamp) :
    d.render (n.kept made) platform = d.render n platform := by
  have htype : (n.kept made).typeId = n.typeId := rfl
  unfold render
  rw [htype]
  cases hresolve : d.formatters.resolve platform n.typeId with
  | none => rfl
  | some f =>
    have hformat : f.format d.types (n.kept made) = f.format d.types n :=
      h f hresolve d.types n made []
    simp only [hformat]

/-- A notification that was built of what a producer handed over. -/
def Notification.Built (n : Notification) : Prop :=
  ∃ (fields : Notification.Fields) (now : Timestamp), fields.build now = .ok n

theorem Notification.built_iff {n : Notification} :
    n.Built ↔ firstBlank? [("type_id", n.typeId), ("category", n.category)] = none ∧
      (n.metadata.any fun entry ↦ Text.isBlank entry.1) = false := by
  constructor
  · rintro ⟨fields, now, h⟩
    simp only [Fields.build, Fields.invalid?] at h
    split at h
    · cases h
    · rename_i hvalid
      obtain rfl := Except.ok.inj h
      split at hvalid
      · cases hvalid
      · rename_i hblank
        simp only [ite_eq_right_iff, reduceCtorEq, imp_false] at hvalid
        exact ⟨hblank, Bool.eq_false_iff.mpr hvalid⟩
  · rintro ⟨hblank, hkeys⟩
    refine ⟨⟨n.typeId, n.category, some n.occurredAt, n.context, n.metadata⟩, n.occurredAt, ?_⟩
    simp only [Fields.build, Fields.invalid?, hblank, hkeys, Bool.false_eq_true, if_false]
    rfl

/-- What is kept of a notification that was built can be built again. -/
theorem Notification.Built.build_kept {n : Notification} (h : n.Built) (context : Json)
    (made now : Timestamp) :
    ({ typeId := n.typeId, category := n.category, occurredAt := some made, context } :
      Notification.Fields).build now = .ok ({ n with context }.kept made) := by
  obtain ⟨hblank, -⟩ := built_iff.mp h
  simp only [Fields.build, Fields.invalid?, hblank, List.any_nil, Bool.false_eq_true, if_false]
  rfl

/-! ### Entries in use -/

namespace DeadLetterStore

variable {s s' : DeadLetterStore} {id : EntryId} {e : DeadLetter}

/-- What may be done to a store: anything but storing another entry under an identifier. -/
inductive Use (id : EntryId) (s : DeadLetterStore) : DeadLetterStore → Prop where
  | store {e : DeadLetter} (hid : e.id ≠ id) : Use id s (s.store e).2
  | transition (other : EntryId) (sources : List DeadLetterStatus) (target : DeadLetterStatus)
      (now : Timestamp) : Use id s (s.transition other sources target now).2
  | list (status : DeadLetterStatus) : Use id s (s.list status).2

/-- Anything that may be done to a store, any number of times. -/
abbrev Used (id : EntryId) : DeadLetterStore → DeadLetterStore → Prop :=
  Relation.ReflTransGen (Use id)

/-- The store has an entry, maybe in another state. -/
def Keeps (s : DeadLetterStore) (e : DeadLetter) : Prop :=
  ∃ status now, s.get? e.id = some (e.moved status now)

theorem get?_congr (hentries : s'.entries = s.entries) (id : EntryId) : s'.get? id = s.get? id := by
  rw [get?, get?, hentries]

/-- Storing an entry fails and changes none, or puts it into the store. -/
theorem store_cases (s : DeadLetterStore) (e : DeadLetter) :
    (∃ text, (s.store e).1 = .error (.backend text) ∧ (s.store e).2.entries = s.entries) ∨
    ((s.store e).1 = .ok e.id ∧ (s.store e).2.entries = (s.holding e).entries) := by
  simp only [store]
  split_ifs
  · exact .inl ⟨_, rfl, rfl⟩
  · exact .inr ⟨rfl, rfl⟩

theorem keeps_holding (s : DeadLetterStore) (e : DeadLetter) : (s.holding e).Keeps e :=
  ⟨e.status, e.updatedAt, (get?_holding s e e.id).trans (if_pos rfl)⟩

theorem Keeps.congr (h : s.Keeps e) (hentries : s'.entries = s.entries) : s'.Keeps e := by
  obtain ⟨status, now, hget⟩ := h
  exact ⟨status, now, (get?_congr hentries e.id).trans hget⟩

/-- An entry stays when one is put into the store that is another, or the same in another state. -/
theorem Keeps.holding {other : DeadLetter} (h : s.Keeps e)
    (hother : e.id = other.id → ∃ status now, other = e.moved status now) :
    (s.holding other).Keeps e := by
  by_cases hid : e.id = other.id
  · obtain ⟨status, now, rfl⟩ := hother hid
    exact ⟨status, now, (get?_holding ..).trans (if_pos hid)⟩
  · obtain ⟨status, now, hget⟩ := h
    exact ⟨status, now, ((get?_holding ..).trans (if_neg hid)).trans hget⟩

/-- An entry stays but for its state. -/
theorem Keeps.use (h : s.Keeps e) (huse : Use e.id s s') : s'.Keeps e := by
  cases huse with
  | @store other hid =>
    obtain ⟨text, -, hentries⟩ | ⟨-, hentries⟩ := s.store_cases other
    · exact h.congr hentries
    · exact (h.holding fun hsame ↦ absurd hsame.symm hid).congr hentries
  | transition other sources target now =>
    have hanswers := s.answers other sources target now
    generalize s.transition other sources target now = next at hanswers ⊢
    obtain ⟨answer, letters⟩ := next
    cases hanswers with
    | declined hentries => exact h.congr hentries
    | @moved found _ hfound _ hentries =>
      have hid : found.id = other := id_of_get? hfound
      refine (h.holding fun hsame ↦ ?_).congr hentries
      obtain ⟨status, earlier, hget⟩ := h
      rw [hsame.trans hid, hfound] at hget
      obtain rfl := Option.some.inj hget
      exact ⟨target, now, rfl⟩
  | list asked => exact h.congr (s.list_entries asked)

theorem Keeps.used (h : s.Keeps e) (hused : Used e.id s s') : s'.Keeps e := by
  induction hused with
  | refl => exact h
  | tail _ huse ih => exact ih.use huse

/-- Who moves an entry gets it as it was stored, but for its state. -/
theorem Keeps.moved (h : s.Keeps e) {sources : List DeadLetterStatus} {target : DeadLetterStatus}
    {now : Timestamp} {found : DeadLetter}
    (hmove : (s.transition e.id sources target now).1 = .ok found) :
    found = e.moved target now := by
  obtain ⟨status, earlier, hget⟩ := h
  have hanswers := s.answers e.id sources target now
  rw [hmove] at hanswers
  cases hanswers with
  | moved hfound =>
    rw [hget] at hfound
    obtain rfl := Option.some.inj hfound
    rfl

end DeadLetterStore

/-! ### From a delivery to a replay -/

variable {t : Delivery} {d site : Depot} {report : DeliveryReport} {id : EntryId}
  {letters : DeadLetterStore} {sources : List DeadLetterStatus} {claimed : Timestamp}
  {e : DeadLetter}

/-- A delivery that says that it left a dead letter has made it of its notification. -/
theorem Delivery.keeps_of_step (hstep : t.step d = some (.done report, site))
    (hletter : report.deadLetter = some id) :
    ∃ (m : Moment) (payload : Option Json) (reason : String) (attempts : ℕ),
      m.freshId = id ∧
      site.letters.Keeps (.new m t.notification t.target payload reason attempts) := by
  have hfails : ∀ (d : Depot) (payload : Option Json) (failure : DeliveryFailure) (attempts : ℕ),
      (t.fail d payload failure attempts).1 = .done report →
        d.moment.freshId = id ∧ (t.fail d payload failure attempts).2.letters.Keeps
          (.new d.moment t.notification t.target payload failure.message attempts) := by
    intro d payload failure attempts hreport
    obtain ⟨answer, letters, hstore, hfail⟩ := t.fail_hears d payload failure attempts
    rw [hfail] at hreport ⊢
    obtain rfl := Turn.done.inj hreport
    have hcases := d.letters.store_cases
      (.new d.moment t.notification t.target payload failure.message attempts)
    rw [hstore] at hcases
    obtain ⟨text, rfl, -⟩ | ⟨rfl, hentries⟩ := hcases
    · cases hletter
    · exact ⟨Option.some.inj hletter, (DeadLetterStore.keeps_holding ..).congr hentries⟩
  have hadvance := advance_of_step hstep
  generalize hturn : (Turn.done report : Turn Delivery DeliveryReport) = turn at hadvance
  cases hadvance with
  | barred => exact ⟨_, _, _, _, hfails _ _ _ _ hturn.symm⟩
  | opens | calls => cases hturn
  | delivers =>
    obtain rfl := Turn.done.inj hturn
    cases hletter
  | fails => exact ⟨_, _, _, _, hfails _ _ _ _ hturn.symm⟩

namespace Replay

/-- What is restored from a dead letter, whatever its state is. -/
theorem restore_eq {n : Notification} (h : n.Built) (m : Moment) (target : Target)
    (payload : Option Json) (reason : String) (attempts : ℕ) (status : DeadLetterStatus)
    (now : Timestamp) :
    restore ((DeadLetter.new m n target payload reason attempts).moved status now) =
      match Json.ofText n.context.text with
      | .error flaw =>
        .error (.formatFailed ("unreadable context snapshot: " ++ flaw.message))
      | .ok context => .ok ({ n with context }.kept m.stamp) := by
  have hread : ((DeadLetter.new m n target payload reason attempts).moved status now).context =
      n.context.text := rfl
  rw [restore, hread]
  cases Json.ofText n.context.text with
  | error flaw => rfl
  | ok context =>
    have hbuild := h.build_kept context m.stamp m.stamp
    simp only [DeadLetter.moved, DeadLetter.new, hbuild]

/-- What a replay renders of a notification depends on what its context is read as. -/
theorem payload_eq (hbuilt : t.notification.Built)
    (hstep : t.step d = some (.done report, site)) (hletter : report.deadLetter = some id)
    (hused : DeadLetterStore.Used id site.letters letters)
    (hclaim : (letters.transition id sources .processing claimed).1 = .ok e)
    (hpayload : e.payload = none) (later : Depot) :
    Replay.payload later e =
      match Json.ofText t.notification.context.text with
      | .error flaw =>
        .ok (.error (.formatFailed ("unreadable context snapshot: " ++ flaw.message)))
      | .ok context =>
        later.render ({ t.notification with context }.kept e.createdAt) t.target.platform := by
  obtain ⟨m, payload, reason, attempts, rfl, hkeeps⟩ := Delivery.keeps_of_step hstep hletter
  obtain rfl := (hkeeps.used hused).moved hclaim
  have hrestore := restore_eq hbuilt m t.target payload reason attempts .processing claimed
  rw [Replay.payload, hpayload]
  simp only [hrestore]
  cases Json.ofText t.notification.context.text <;> rfl

end Replay

/-! ### A depot in which deliveries crash -/

/-- The end of a delivery after at most so many moves: the delivery before its last move, its report
and the depot. -/
def Delivery.ends : ℕ → Delivery → Depot → Option (Delivery × DeliveryReport × Depot)
  | 0, _, _ => none
  | moves + 1, t, d =>
    match t.step d with
    | none => none
    | some (.going t, d) => ends moves t d
    | some (.done report, d) => some (t, report, d)

theorem Delivery.step_of_ends {moves : ℕ} {t' : Delivery}
    (h : ends moves t d = some (t', report, site)) :
    ∃ d, t'.step d = some (.done report, site) := by
  induction moves generalizing t d with
  | zero => cases h
  | succ moves ih =>
    rw [ends] at h
    split at h
    · cases h
    · exact ih h
    · rename_i hstep
      cases h
      exact ⟨_, hstep⟩

/-- A formatter that shows the type of a notification and more of it. -/
def Formatter.showing (more : Notification → List Json) : Formatter where
  format := fun _ n ↦ .payload (.array (.string n.typeId :: more n))

/-- A depot with one formatter and a sender that crashes. -/
def Depot.fragile (more : Notification → List Json) : Depot where
  formatters := ⟨[(⟨"slack", none⟩, .showing more)]⟩
  senders := ⟨[("slack", { plan := fun _ ↦ ⟨.zero, .crash (.raised "boom")⟩ })]⟩
  gates := { defaults := {} }

theorem Depot.render_fragile {more : Notification → List Json}
    (h : d.formatters = (fragile more).formatters) (n : Notification) :
    d.render n "slack" = .ok (.ok (.array (.string n.typeId :: more n))) := by
  rw [render, h]
  rfl

/-- A target in this depot. -/
def Target.hook : Target := ⟨"slack", "alerts", "https://hooks.slack/alerts"⟩

/-- The delivery of a notification crashes there in the fourth move and leaves a dead letter. -/
def Delivery.Breaks (more : Notification → List Json) (n : Notification) : Prop :=
  ((ends 4 { notification := n, target := .hook } (.fragile more)).map fun s ↦
      (s.1.notification, s.1.target, s.2.1.deadLetter, s.2.2.letters, s.2.2.formatters)) =
    some (n, .hook, some ⟨Clock.idBase + 3⟩,
      ⟨[.new ({ ticks := 3 } : Clock).moment n .hook none (DeliveryFailure.crashed "boom").message
        0], {}⟩,
      (Depot.fragile more).formatters)

/-- Whoever claims the dead letter of such a delivery gets what the delivery has stored. -/
theorem Delivery.Breaks.leaves {more : Notification → List Json} {n : Notification}
    (h : Breaks more n) :
    ∃ (t : Delivery) (d : Depot) (report : DeliveryReport) (site : Depot) (e : DeadLetter),
      ends 4 { notification := n, target := .hook } (.fragile more) = some (t, report, site) ∧
      t.notification = n ∧ t.target = .hook ∧ t.step d = some (.done report, site) ∧
      report.deadLetter = some e.id ∧
      (site.letters.transition e.id [.pending] .processing ⟨0, 0⟩).1 = .ok e ∧
      e.payload = none ∧ e.createdAt = ⟨1780272000, 3⟩ ∧
      site.formatters = (Depot.fragile more).formatters := by
  obtain ⟨⟨t, report, site⟩, hends, hrun⟩ := Option.map_eq_some_iff.mp h
  simp only [Prod.mk.injEq] at hrun
  obtain ⟨hnotification, htarget, hletter, hletters, hformatters⟩ := hrun
  obtain ⟨d, hstep⟩ := step_of_ends hends
  refine ⟨t, d, report, site, (DeadLetter.new ({ ticks := 3 } : Clock).moment n .hook none
    (DeliveryFailure.crashed "boom").message 0).moved .processing ⟨0, 0⟩, hends, hnotification,
    htarget, hstep, hletter, ?_, rfl, rfl, hformatters⟩
  rw [hletters]
  rfl

namespace Replay

/-- A notification that is delivered there. -/
def buildFailed : Notification where
  typeId := "build.failed"
  category := "ci"
  occurredAt := ⟨1780272000, 3⟩
  context := .null
  metadata := []

theorem built_buildFailed (occurredAt : Timestamp) (context : Json)
    {metadata : List (String × String)}
    (hkeys : (metadata.any fun entry ↦ Text.isBlank entry.1) = false) :
    ({ buildFailed with occurredAt, context, metadata } : Notification).Built := by
  have hblank : firstBlank? [("type_id", "build.failed"), ("category", "ci")] = none := rfl
  exact Notification.built_iff.mpr ⟨hblank, hkeys⟩

/-- One with metadata and a context that is read back. -/
def labelled : Notification :=
  { buildFailed with
    context := .object [("attempt", .ofInt 3), ("branch", .string "main")]
    metadata := [("team", "infra")] }

theorem lasting_labelled : labelled.context.Lasting Json.depthLimit := by
  refine .object (by simp only [Json.Sorted]; decide) fun m hm ↦ ?_
  simp only [List.mem_cons, List.not_mem_nil, or_false] at hm
  obtain rfl | rfl := hm
  · exact .number (Json.readsBack_int (by decide) (by decide))
  · exact .string "main"

/-- All that a formatter can see of a notification but its type and its category. -/
def shown (n : Notification) : List Json :=
  [n.context, .ofInt n.occurredAt.seconds, .object (n.metadata.map fun m ↦ (m.1, .string m.2))]

/-- A notification whose delivery leaves a dead letter without payload, of which a replay renders
something else with the same formatter. -/
def Altered (n : Notification) : Prop :=
  n.Built ∧
    ∃ (t : Delivery) (report : DeliveryReport) (site : Depot) (e : DeadLetter),
      Delivery.ends 4 { notification := n, target := .hook } (.fragile shown) =
        some (t, report, site) ∧
      report.deadLetter = some e.id ∧
      (site.letters.transition e.id [.pending] .processing ⟨0, 0⟩).1 = .ok e ∧
      e.payload = none ∧ Replay.payload site e ≠ site.render n "slack"

/-- The number is written with all its digits and read as its neighbour. -/
theorem ne_of_ofText {context : Json}
    (h : Json.ofText (Json.number (.float 0.9010980259066625)).text = .ok context) :
    context ≠ .number (.float 0.9010980259066625) := by
  have hwritten : (Json.number (.float 0.9010980259066625)).text = "0.9010980259066625" := by
    decide +kernel
  have hread : (Json.ofText "0.9010980259066625").toOption.map Json.text =
      some "0.9010980259066624" := by decide +kernel
  rintro rfl
  rw [hwritten] at h
  rw [h] at hread
  exact absurd (hwritten.symm.trans (Option.some.inj hread)) (by decide)

theorem altered_of_shown {n : Notification} (hbuilt : n.Built)
    (hbreaks : Delivery.Breaks shown n)
    (hshown : ∀ context, Json.ofText n.context.text = .ok context →
      shown ({ n with context }.kept ⟨1780272000, 3⟩) ≠ shown n) :
    Altered n := by
  obtain ⟨t, d, report, site, e, hends, rfl, htarget, hstep, hletter, hclaim, hpayload, hcreated,
    hformatters⟩ := hbreaks.leaves
  refine ⟨hbuilt, t, report, site, e, hends, hletter, hclaim, hpayload, ?_⟩
  rw [payload_eq hbuilt hstep hletter .refl hclaim hpayload site, htarget, hcreated,
    Depot.render_fragile hformatters]
  split
  · simp
  · rename_i context hcontext
    have hother := hshown context hcontext
    show site.render _ "slack" ≠ _
    rw [Depot.render_fragile hformatters]
    simpa [Notification.kept] using hother

/-! ### What replays render -/

/-- A replay renders what was kept. Say that a delivery of a notification that was built has left a
dead letter without payload, and that someone claims it after anything was done to the store. With
whatever formatters there are by then, a replay gets the payload or the failure that they make of
what is kept: the notification without metadata, as if it had occurred when the dead letter was
made, with the context that the text of its context is read as. It fails if that text is not read.
If the context is not nested too deep and its numbers read back, it is read as what it was. A
formatter that looks neither at metadata nor at the time then makes of what is kept what it makes of
the notification itself. -/
theorem renders_what_was_kept (hbuilt : t.notification.Built)
    (hstep : t.step d = some (.done report, site)) (hletter : report.deadLetter = some id)
    (hused : DeadLetterStore.Used id site.letters letters)
    (hclaim : (letters.transition id sources .processing claimed).1 = .ok e)
    (hpayload : e.payload = none) (later : Depot) :
    Replay.payload later e =
      (match Json.ofText t.notification.context.text with
      | .error flaw =>
        .ok (.error (.formatFailed ("unreadable context snapshot: " ++ flaw.message)))
      | .ok context =>
        later.render ({ t.notification with context }.kept e.createdAt) t.target.platform) ∧
    (t.notification.context.Lasting Json.depthLimit →
      Replay.payload later e =
        later.render (t.notification.kept e.createdAt) t.target.platform ∧
      ((∀ f, later.formatters.resolve t.target.platform t.notification.typeId = some f →
          f.Plain) →
        Replay.payload later e = later.render t.notification t.target.platform)) := by
  have hreplay := payload_eq hbuilt hstep hletter hused hclaim hpayload later
  refine ⟨hreplay, fun hlasting ↦ ?_⟩
  rw [hlasting.ofText] at hreplay
  exact ⟨hreplay, fun hplain ↦ hreplay.trans (Depot.render_kept hplain e.createdAt)⟩

/-- A delivery crashes in its send, and the replay renders the same payload: the formatter shows
only the context. -/
theorem renders_what_was_kept_crashed :
    ∃ (t : Delivery) (report : DeliveryReport) (site : Depot) (e : DeadLetter),
      Delivery.ends 4 { notification := labelled, target := .hook }
        (.fragile fun n ↦ [n.context]) = some (t, report, site) ∧
      report.deadLetter = some e.id ∧
      (site.letters.transition e.id [.pending] .processing ⟨0, 0⟩).1 = .ok e ∧
      e.payload = none ∧
      Replay.payload site e = .ok (.ok (.array [.string "build.failed", labelled.context])) := by
  have hbreaks : Delivery.Breaks (fun n ↦ [n.context]) labelled := rfl
  obtain ⟨t, d, report, site, e, hends, hn, htarget, hstep, hletter, hclaim, hpayload, -,
    hformatters⟩ := hbreaks.leaves
  have hrenders := (renders_what_was_kept (hn ▸ built_buildFailed _ _ rfl) hstep hletter .refl
    hclaim hpayload site).2 (hn ▸ lasting_labelled)
  refine ⟨t, report, site, e, hends, hletter, hclaim, hpayload, ?_⟩
  rw [hrenders.2, hn, htarget]
  · exact Depot.render_fragile hformatters labelled
  · intro f hf
    rw [hformatters, hn, htarget] at hf
    obtain rfl := Option.some.inj hf
    exact fun _ _ _ _ ↦ rfl

/-- With the same formatter, a replay need not render what the delivery rendered: not if the
notification has metadata, did not occur when the delivery failed, has a number that is not read as
it is written, or has a context that is nested too deep. -/
theorem renders_unlike_delivery :
    Altered { buildFailed with metadata := [("team", "infra")] } ∧
    Altered { buildFailed with occurredAt := ⟨0, 0⟩ } ∧
    Altered { buildFailed with context := .number (.float 0.9010980259066625) } ∧
    Altered { buildFailed with context := Json.nest 128 } := by
  refine ⟨altered_of_shown (built_buildFailed _ _ rfl) rfl ?_,
    altered_of_shown (built_buildFailed _ _ rfl) rfl ?_,
    altered_of_shown (built_buildFailed _ _ rfl) rfl ?_,
    altered_of_shown (built_buildFailed _ _ rfl) rfl ?_⟩
  · intro context _
    simp [shown, Notification.kept]
  · intro context _
    simp [shown, Notification.kept, buildFailed, Json.ofInt]
  · intro context hcontext hshown
    exact ne_of_ofText hcontext (List.cons.inj hshown).1
  · intro context hcontext
    have hdepth : ¬ (Json.nest 128).Lasting Json.depthLimit := fun h ↦
      absurd (Json.lasting_nest.mp h) (by decide)
    rw [(Json.lasting_nest.mpr (Nat.le_refl 128)).ofText_tooDeep hdepth] at hcontext
    cases hcontext

/-! ### What is restored -/

/-- The context is restored. Take a notification that was built, whose context is nested no deeper
than texts may be and has no numbers but integers of 64 bits. From the dead letter of any delivery of
it that fails, whatever the target, the payload, the reason and the attempts, a notification of the
same type and category is restored with the same context. It stays so in whatever state the dead
letter is later. -/
theorem restores_context {n : Notification} (hbuilt : n.Built)
    (hfits : n.context.Fits (some Json.depthLimit)) (hnumbers : n.context.Integral)
    (m : Moment) (target : Target) (payload : Option Json) (reason : String) (attempts : ℕ) :
    ∃ restored : Notification,
      restored.typeId = n.typeId ∧ restored.category = n.category ∧
      restored.context = n.context ∧
      restore (.new m n target payload reason attempts) = .ok restored ∧
      ∀ (status : DeadLetterStatus) (now : Timestamp),
        restore ((DeadLetter.new m n target payload reason attempts).moved status now) =
          .ok restored := by
  have hmoved : ∀ (status : DeadLetterStatus) (now : Timestamp),
      restore ((DeadLetter.new m n target payload reason attempts).moved status now) =
        .ok (n.kept m.stamp) := by
    intro status now
    rw [restore_eq hbuilt, (hfits.lasting hnumbers).ofText]
  exact ⟨n.kept m.stamp, rfl, rfl, rfl, hmoved .pending m.stamp, hmoved⟩

/-- A context with the greatest and the least integer, under keys and with texts that are escaped. -/
def bordering : Notification :=
  { buildFailed with
    context := .object
      [("\x00\n", .array [.ofInt (2 ^ 64 - 1), .ofInt (-2 ^ 63), .null]),
       ("\"\\", .string "\t\x1f\x7f\"/∀𝄞")] }

theorem restores_context_bordering :
    ∃ restored : Notification,
      restored.typeId = "build.failed" ∧ restored.category = "ci" ∧
      restored.context = bordering.context ∧
      restore (.new ({} : Clock).moment bordering .hook none "no sender" 0) = .ok restored := by
  have hfits : bordering.context.Fits (some Json.depthLimit) := by
    refine .object rfl (by simp only [Json.Sorted]; decide) fun m hm ↦ ?_
    simp only [List.mem_cons, List.not_mem_nil, or_false] at hm
    obtain rfl | rfl := hm
    · refine .array rfl fun j hj ↦ ?_
      simp only [List.mem_cons, List.not_mem_nil, or_false] at hj
      obtain rfl | rfl | rfl := hj
      · exact .number _
      · exact .number _
      · exact .null
    · exact .string _
  have hnumbers : bordering.context.Integral := by
    refine .object fun m hm ↦ ?_
    simp only [List.mem_cons, List.not_mem_nil, or_false] at hm
    obtain rfl | rfl := hm
    · refine .array fun j hj ↦ ?_
      simp only [List.mem_cons, List.not_mem_nil, or_false] at hj
      obtain rfl | rfl | rfl := hj
      · exact .number (by decide) (by decide)
      · exact .number (by decide) (by decide)
      · exact .null
    · exact .string _
  obtain ⟨restored, htype, hcategory, hcontext, hrestore, -⟩ :=
    restores_context (built_buildFailed _ _ rfl) hfits hnumbers ({} : Clock).moment .hook none
      "no sender" 0
  exact ⟨restored, htype, hcategory, hcontext, hrestore⟩

end Replay

end Courier

import Courier.Proofs.DeadLetter.Codec
import Courier.Proofs.DeadLetter.Snapshot
import Courier.Proofs.Delivery.Round

/-!
# Dead letters outlast the service

A mailroom is a depot with any number of dispatches, whose deliveries move in any order. Between
two of their moves entries are moved from state to state, and others may change anything in the
depot but its dead letters, so that formatters may answer differently each time (`Mailroom.Move`,
`Mailroom.Reaches`).

An entry is read back from its record if and only if its payload is not `null`
(`DeadLetter.decode_toJson_iff`). No entry has that payload, for two things hold in a mailroom that
had no dead letters at first. A delivery with a call brings a payload that is not empty, since
rendering refuses those that are (`Delivery.Laden`, `Mailroom.laden_of_reaches`). And every entry
goes back to a delivery that has left it with the payload that it brought, if any (`Mailroom.Stems`,
`Mailroom.stems_of_reaches`). So an entry is read with its payload, and a replay sends that and
nothing else (`Replay.Sends`); `Mailroom.records_read_back` says so of entries, and of results and
failures that they are read back.
-/

set_option autoImplicit false
set_option relaxedAutoImplicit false

namespace Courier

/-! ### Entries of a store -/

namespace DeadLetterStore

variable {s : DeadLetterStore} {e e' : DeadLetter} {entries : List DeadLetter}

theorem mem_put (h : e' ∈ put e entries) : e' = e ∨ e' ∈ entries := by
  induction entries with
  | nil => exact .inl (List.mem_singleton.mp h)
  | cons first rest ih =>
    rw [put] at h
    split_ifs at h
    · exact (List.mem_cons.mp h).imp id (List.mem_cons_of_mem _)
    · obtain rfl | h := List.mem_cons.mp h
      · exact .inr List.mem_cons_self
      · exact (ih h).imp id (List.mem_cons_of_mem _)

/-- Moving an entry brings up none that was not there but for its state. -/
theorem mem_of_transition {id : EntryId} {sources : List DeadLetterStatus}
    {target : DeadLetterStatus} {now : Timestamp}
    (h : e ∈ (s.transition id sources target now).2.entries) :
    e ∈ s.entries ∨ ∃ found ∈ s.entries, e = found.moved target now := by
  have hanswers := s.answers id sources target now
  generalize s.transition id sources target now = next at hanswers h
  obtain ⟨answer, letters⟩ := next
  cases hanswers with
  | declined hentries => exact .inl (hentries ▸ h)
  | @moved found _ hget _ hentries =>
    rw [show letters.entries = _ from hentries] at h
    obtain heq | h := mem_put h
    · exact .inr ⟨found, List.mem_of_find?_eq_some hget, heq⟩
    · exact .inl h

end DeadLetterStore

/-! ### What deliveries bring -/

namespace Delivery

variable {t t' : Delivery} {d d' site : Depot} {payload : Json} {e : DeadLetter}

/-- If a delivery has a call, this goes to the address of its target with a payload that is not
empty. -/
def Laden (t : Delivery) : Prop :=
  ∀ c, t.call = some c → c.url = t.target.url ∧ isEmptyPayload c.payload = false

/-- The payload that a delivery sends or would send: that of its call or, while it has none, what
its notification is rendered to. -/
def Brings (t : Delivery) (d : Depot) (payload : Json) : Prop :=
  match t.call with
  | some c => c.payload = payload
  | none => d.Renders t.notification t.target.platform payload

theorem Brings.not_empty (h : t.Brings d payload) (hladen : t.Laden) :
    isEmptyPayload payload = false := by
  rw [Brings] at h
  split at h
  · rename_i c hcall
    subst h
    exact (hladen c hcall).2
  · obtain ⟨formatter, -, -, hempty⟩ := h
    exact hempty

theorem Laden.advance (h : t.Laden) (hadvance : t.Advance d (.going t') site) : t'.Laden := by
  generalize hturn : (Turn.going t' : Turn Delivery DeliveryReport) = turn at hadvance
  cases hadvance with
  | barred | fails =>
    obtain ⟨report, hdone⟩ := done_of_fail t _ _ _ _
    cases hturn.trans hdone
  | delivers => cases hturn
  | opens hcall hclears =>
    obtain rfl := Turn.going.inj hturn
    intro c hc
    obtain rfl := Option.some.inj hc
    obtain ⟨formatter, -, -, hempty⟩ := hclears.renders
    exact ⟨rfl, hempty⟩
  | calls hcall hmove =>
    obtain rfl := Turn.going.inj hturn
    intro c hc
    obtain rfl := Option.some.inj hc
    obtain ⟨hurl, hpayload⟩ := parcel_of_call hmove
    obtain ⟨hladen, hempty⟩ := h _ hcall
    exact ⟨hurl.trans hladen, hpayload ▸ hempty⟩

/-- The next move of a delivery ends it and puts an entry into the store that was made of its
notification, with the payload that it brings if there is one. -/
structure Leaves (t : Delivery) (d : Depot) (e : DeadLetter) : Prop where
  step : ∃ report site, t.step d = some (.done report, site) ∧ report.deadLetter = some e.id ∧
    site.letters.entries = (d.letters.holding e).entries
  made : ∃ (m : Moment) (payload : Option Json) (failure : DeliveryFailure) (attempts : ℕ),
    e = .new m t.notification t.target payload failure.message attempts
  brings : ∀ payload, e.payload = some payload → t.Brings d payload

theorem leaves_of_fail {payload : Option Json} {failure : DeliveryFailure} {attempts : ℕ}
    (hstep : t.step d = some (t.fail d' payload failure attempts))
    (hletters : d'.letters = d.letters)
    (hbrings : ∀ brought, payload = some brought → t.Brings d brought) :
    (t.fail d' payload failure attempts).2.letters.entries = d.letters.entries ∨
      ∃ e, t.Leaves d e ∧
        (t.fail d' payload failure attempts).2.letters.entries = (d.letters.holding e).entries := by
  obtain ⟨answer, letters, hstore, hfail⟩ := t.fail_hears d' payload failure attempts
  have hcases := d.letters.store_cases
    (.new d'.moment t.notification t.target payload failure.message attempts)
  rw [hletters] at hstore
  rw [hstore] at hcases
  rw [hfail] at hstep ⊢
  obtain ⟨text, rfl, hentries⟩ | ⟨rfl, hentries⟩ := hcases
  · exact .inl hentries
  · exact .inr ⟨_, ⟨⟨_, _, hstep, rfl, hentries⟩, ⟨_, _, _, _, rfl⟩, hbrings⟩, hentries⟩

/-- A move of a delivery leaves the entries as they are, or puts one into the store. -/
theorem entries_of_step {turn : Turn Delivery DeliveryReport}
    (hstep : t.step d = some (turn, site)) :
    site.letters.entries = d.letters.entries ∨
      ∃ e, t.Leaves d e ∧ site.letters.entries = (d.letters.holding e).entries := by
  have hcalls : ∀ {c : GateCall} {after : Depot} {turn : Turn GateCall GateCall.End},
      d.call t.target.resource t.target.platform c = some (turn, after) →
        after.letters = d.letters := by
    intro c after turn hmove
    obtain ⟨gate, sender, scene, -, -, -, events, rfl⟩ := Depot.call_eq hmove
    rfl
  cases advance_of_step hstep with
  | barred hcall hbars =>
    refine leaves_of_fail hstep rfl fun brought hbrought ↦ ?_
    simp only [Brings, hcall]
    cases hbars with
    | noSender hrenders =>
      obtain rfl := Option.some.inj hbrought
      exact hrenders
    | noFormatter | contextMismatch | formatFailed | formatCrashed | emptyPayload | noGate =>
      cases hbrought
  | opens => exact .inl rfl
  | calls _ hmove | delivers _ hmove => exact .inl (congrArg _ (hcalls hmove))
  | fails hcall hmove hsetback =>
    refine leaves_of_fail hstep (hcalls hmove) fun brought hbrought ↦ ?_
    simp only [Brings, hcall]
    cases hsetback with
    | rejected | failed => exact Option.some.inj hbrought
    | crashed => cases hbrought

/-- What is in the store after a move of a delivery was there before or is left by it. -/
theorem leaves_of_mem {turn : Turn Delivery DeliveryReport} (hstep : t.step d = some (turn, site))
    (he : e ∈ site.letters.entries) : e ∈ d.letters.entries ∨ t.Leaves d e := by
  obtain hentries | ⟨left, hleaves, hentries⟩ := entries_of_step hstep
  · exact .inl (hentries ▸ he)
  · rw [hentries] at he
    obtain rfl | he := DeadLetterStore.mem_put he
    · exact .inr hleaves
    · exact .inl he

end Delivery

/-! ### Mailrooms -/

/-- Dispatches at one depot. -/
structure Mailroom where
  depot : Depot
  dispatches : List (Turn Dispatch (List DeliveryReport)) := []

namespace Mailroom

variable {start before s s' : Mailroom} {t : Delivery} {e : DeadLetter}

/-- The dead letters. -/
def letters (s : Mailroom) : DeadLetterStore := s.depot.letters

/-- The mailroom after an entry was to be moved from state to state. -/
def transitioned (s : Mailroom) (id : EntryId) (sources : List DeadLetterStatus)
    (target : DeadLetterStatus) (now : Timestamp) : Mailroom :=
  { s with
    depot := { s.depot with letters := (s.letters.transition id sources target now).2 } }

/-- One move. -/
inductive Move (s : Mailroom) : Mailroom → Prop where
  /-- A dispatch comes. -/
  | come (n : Notification) : Move s { s with dispatches := s.dispatches ++ [.going (.pending n)] }
  /-- A dispatch moves, or its delivery at a place. -/
  | turn {index place : ℕ} {t : Dispatch} {next : Turn Dispatch (List DeliveryReport)}
      {site : Depot} (hdispatch : s.dispatches[index]? = some (.going t))
      (hstep : t.stepOne place s.depot = some (next, site)) :
      Move s ⟨site, s.dispatches.set index next⟩
  /-- An entry is to be moved from state to state. -/
  | transition (id : EntryId) (sources : List DeadLetterStatus) (target : DeadLetterStatus)
      (now : Timestamp) : Move s (s.transitioned id sources target now)
  /-- Others do something to the depot. -/
  | others {site : Depot} (hentries : site.letters.entries = s.letters.entries) :
      Move s { s with depot := site }

/-- Any number of moves. -/
abbrev Reaches : Mailroom → Mailroom → Prop := Relation.ReflTransGen Move

/-- A delivery is under way. -/
def Delivers (s : Mailroom) (t : Delivery) : Prop :=
  ∃ deliveries, .going (.delivering deliveries) ∈ s.dispatches ∧ .going t ∈ deliveries

/-- Every delivery under way is laden. -/
theorem laden_of_move (h : ∀ t, s.Delivers t → t.Laden) (hmove : s.Move s') :
    ∀ t, s'.Delivers t → t.Laden := by
  rintro t ⟨deliveries, hdispatch, ht⟩
  cases hmove with
  | come =>
    obtain hold | hnew := List.mem_append.mp hdispatch
    · exact h t ⟨deliveries, hold, ht⟩
    · cases List.mem_singleton.mp hnew
  | transition | others => exact h t ⟨deliveries, hdispatch, ht⟩
  | @turn index place dispatch next site hgoing hstep =>
    have hbefore := List.mem_of_getElem? hgoing
    obtain hold | hnew := List.mem_or_eq_of_mem_set hdispatch
    · exact h t ⟨deliveries, hold, ht⟩
    · obtain ⟨n, rfl, rfl, -⟩ | ⟨others, moved, turn, rfl, hplace, hturn, rfl⟩ |
        ⟨others, reports, rfl, rfl, -, -⟩ := Dispatch.stepOne_cases hstep
      · obtain rfl := Dispatch.delivering.inj (Turn.going.inj hnew)
        obtain ⟨target, -, hgoing⟩ := List.mem_map.mp ht
        obtain rfl := Turn.going.inj hgoing
        exact fun c hc ↦ nomatch hc
      · obtain rfl := Dispatch.delivering.inj (Turn.going.inj hnew)
        obtain ht | rfl := List.mem_or_eq_of_mem_set ht
        · exact h t ⟨others, hbefore, ht⟩
        · exact (h moved ⟨others, hbefore, List.mem_of_getElem? hplace⟩).advance
            (Delivery.advance_of_step hturn)
      · cases hnew

theorem laden_of_reaches (h : ∀ t, s.Delivers t → t.Laden) (hreaches : Reaches s s') :
    ∀ t, s'.Delivers t → t.Laden := by
  induction hreaches with
  | refl => exact h
  | tail _ hmove ih => exact laden_of_move ih hmove

/-- An entry goes back to a delivery, which was under way at some moment of a run and left it in its
next move; nothing but the state of the entry has changed since. -/
structure Stems (start s : Mailroom) (e : DeadLetter) (before : Mailroom) (t : Delivery) :
    Prop where
  start : Reaches start before
  since : Reaches before s
  delivers : before.Delivers t
  leaves : ∃ left status now, t.Leaves before.depot left ∧ e = left.moved status now

theorem Stems.move (h : Stems start s e before t) (hmove : s.Move s') : Stems start s' e before t :=
  { h with since := h.since.tail hmove }

theorem Stems.moved (h : Stems start s e before t) (status : DeadLetterStatus) (now : Timestamp) :
    Stems start s (e.moved status now) before t := by
  obtain ⟨left, _, _, hleaves, rfl⟩ := h.leaves
  exact { h with leaves := ⟨left, status, now, hleaves, rfl⟩ }

theorem Stems.target_eq (h : Stems start s e before t) : e.target = t.target := by
  obtain ⟨left, _, _, hleaves, rfl⟩ := h.leaves
  obtain ⟨m, payload, failure, attempts, rfl⟩ := hleaves.made
  rfl

theorem Stems.brings (h : Stems start s e before t) {payload : Json}
    (hpayload : e.payload = some payload) : t.Brings before.depot payload := by
  obtain ⟨left, _, _, hleaves, rfl⟩ := h.leaves
  exact hleaves.brings payload hpayload

/-- What a move puts into the store goes back to a delivery, if what was there does. -/
theorem stems_of_move (hstart : Reaches start s)
    (h : ∀ e ∈ s.letters.entries, ∃ before t, Stems start s e before t) (hmove : s.Move s') :
    ∀ e ∈ s'.letters.entries, ∃ before t, Stems start s' e before t := by
  have hkept : ∀ e ∈ s.letters.entries, ∃ before t, Stems start s' e before t := by
    intro e he
    obtain ⟨before, t, hstems⟩ := h e he
    exact ⟨before, t, hstems.move hmove⟩
  cases hmove with
  | come => exact hkept
  | others hentries => exact fun e he ↦ hkept e (hentries ▸ he)
  | transition =>
    intro e he
    obtain he | ⟨found, hfound, rfl⟩ := DeadLetterStore.mem_of_transition he
    · exact hkept e he
    · obtain ⟨before, t, hstems⟩ := hkept found hfound
      exact ⟨before, t, hstems.moved _ _⟩
  | @turn index place dispatch next site hgoing hstep =>
    intro e he
    obtain ⟨n, -, -, rfl⟩ | ⟨deliveries, t, turn, rfl, hplace, hturn, -⟩ |
      ⟨deliveries, reports, -, -, rfl, -⟩ := Dispatch.stepOne_cases hstep
    · exact hkept e he
    · obtain he | hleaves := Delivery.leaves_of_mem hturn he
      · exact hkept e he
      · -- the entry is new: the run so far leads to the delivery that has just left it
        exact ⟨s, t, hstart, .single (.turn hgoing hstep),
          ⟨deliveries, List.mem_of_getElem? hgoing, List.mem_of_getElem? hplace⟩,
          ⟨e, e.status, e.updatedAt, hleaves, rfl⟩⟩
    · exact hkept e he

/-- Every entry goes back to a delivery. -/
theorem stems_of_reaches (hempty : start.letters.entries = []) (hreaches : Reaches start s) :
    ∀ e ∈ s.letters.entries, ∃ before t, Stems start s e before t := by
  induction hreaches with
  | refl => simp [hempty]
  | tail hstart hmove ih => exact stems_of_move hstart ih hmove

end Mailroom

/-! ### What replays send -/

/-- However a call goes on and whatever others do meanwhile, it sends nothing but a payload to an
address. -/
def GateCall.SendsOnly (resource platform : String) (c : GateCall) (url : String) (payload : Json) :
    Prop :=
  ∀ c', Relation.ReflTransGen
      (fun c c' ↦ ∃ (d site : Depot), d.call resource platform c = some (.going c', site)) c c' →
    ∀ (d : Depot) turn site, d.call resource platform c' = some (turn, site) →
      ∀ p, site.sentTo p = d.sentTo p ∨
        p = platform ∧ site.sentTo p = ⟨d.clock.now, url, payload⟩ :: d.sentTo p

theorem GateCall.sendsOnly (resource platform : String) (c : GateCall) :
    c.SendsOnly resource platform c.url c.payload := by
  intro c' hgoes
  have hparcel : c'.url = c.url ∧ c'.payload = c.payload := by
    induction hgoes with
    | refl => exact ⟨rfl, rfl⟩
    | tail _ hstep ih =>
      obtain ⟨before, after, hcall⟩ := hstep
      obtain ⟨hurl, hpayload⟩ := Delivery.parcel_of_call hcall
      exact ⟨hurl.trans ih.1, hpayload.trans ih.2⟩
  intro d turn site hmove p
  obtain ⟨-, -, ⟨c₁, -, -, -, hsent⟩ | ⟨c₁, -, -, -, hsent⟩ | ⟨answer, -, hsent, -⟩⟩ :=
    Delivery.sentTo_of_call hmove
  · exact .inl (hsent p)
  · rw [hsent, hparcel.1, hparcel.2]
    split_ifs with hplatform
    · exact .inr ⟨hplatform, rfl⟩
    · exact .inl rfl
  · exact .inl (hsent p)

namespace Replay

/-- Wherever there are a sender and a gate for the target of an entry, a replay that has claimed it
begins a call that sends nothing but a payload to an address. -/
def Sends (e : DeadLetter) (url : String) (payload : Json) : Prop :=
  ∀ (later : Depot) (t : Replay) (g : Gate) (gates : GateRegistry),
    (later.senders.get? e.target.platform).isSome →
    later.gates.gate e.target.resource = .ok (g, gates) →
    ∃ c : GateCall,
      t.claimed later e = (.going { t with phase := .calling e c }, { later with gates }) ∧
      c.SendsOnly e.target.resource e.target.platform url payload

theorem sends_of_payload {e : DeadLetter} {payload : Json} (hpayload : e.payload = some payload) :
    Sends e e.target.url payload := by
  intro later t g gates hsender hgate
  refine ⟨{ url := e.target.url, payload }, ?_, GateCall.sendsOnly _ _ _⟩
  have hnone : (later.senders.get? e.target.platform).isNone = false := by
    rw [← Option.not_isSome, hsender]
    rfl
  have hkept : Replay.payload later e = .ok (.ok payload) := by
    simp only [Replay.payload, hpayload]
  simp only [claimed, hkept, hnone, hgate, Bool.false_eq_true, if_false]

end Replay

namespace Mailroom

/-- What is recorded of deliveries is read back from its record: every result of a send, every
failure, and every entry that a dispatch can leave and a store can move on, whatever formatters make
of notifications and whatever others do meanwhile.

The entry goes back to a delivery of the run. If it has a payload, this is what that delivery sent
or, if it had not come so far, what its notification had been rendered to, and a replay of the entry
sends nothing else, and to the same address. -/
theorem records_read_back {d : Depot} {s : Mailroom} (hempty : d.letters.entries = [])
    (hreaches : Reaches ⟨d, []⟩ s) :
    (∀ r : SendResult, r.Held → Decode.ofJson SendResult.decode r.toJson = .ok r) ∧
    (∀ f : DeliveryFailure, f.Held → Decode.ofJson DeliveryFailure.decode f.toJson = .ok f) ∧
    ∀ e ∈ s.letters.entries, e.Held →
      Decode.ofJson DeadLetter.decode e.toJson = .ok e ∧
      ∃ before t, Stems ⟨d, []⟩ s e before t ∧ t.Laden ∧
        ∀ payload, e.payload = some payload →
          t.Brings before.depot payload ∧ Replay.Sends e t.target.url payload := by
  refine ⟨fun r hheld ↦ SendResult.decode_toJson hheld rfl rfl,
    fun f hheld ↦ DeliveryFailure.decode_toJson hheld rfl rfl,
    fun e he hheld ↦ ?_⟩
  have hstart : (⟨d, []⟩ : Mailroom).letters.entries = [] := hempty
  obtain ⟨before, t, hstems⟩ := stems_of_reaches hstart hreaches e he
  have hladen : t.Laden :=
    laden_of_reaches (by simp [Delivers]) hstems.start t hstems.delivers
  refine ⟨(DeadLetter.decode_toJson_iff hheld).mpr fun hnull ↦ ?_, before, t, hstems, hladen,
    fun payload hpayload ↦ ⟨hstems.brings hpayload, ?_⟩⟩
  · exact absurd ((hstems.brings hnull).not_empty hladen) (by simp [isEmptyPayload])
  · rw [← hstems.target_eq]
    exact Replay.sends_of_payload hpayload

/-- The dispatch at a place of a mailroom makes moves, each with the delivery at a place; none if it
cannot. -/
def play (index : ℕ) : List ℕ → Mailroom → Option Mailroom
  | [], s => some s
  | place :: script, s =>
    match s.dispatches[index]? with
    | some (.going t) =>
      match t.stepOne place s.depot with
      | none => none
      | some (next, site) => play index script ⟨site, s.dispatches.set index next⟩
    | _ => none

theorem reaches_of_play {index : ℕ} {script : List ℕ} {s s' : Mailroom}
    (h : play index script s = some s') : Reaches s s' := by
  induction script generalizing s with
  | nil =>
    obtain rfl := Option.some.inj h
    exact .refl
  | cons place rest ih =>
    rw [play] at h
    split at h
    · rename_i t hgoing
      split at h
      · cases h
      · rename_i next site hstep
        exact .head (.turn hgoing hstep) (ih h)
    · cases h

/-- A depot with one target, whose provider refuses every payload. -/
def refusing : Depot :=
  { Depot.fragile fun _ ↦ [] with
    senders := ⟨[("slack",
      { plan := fun _ ↦ ⟨.zero, .result (.failure 404 "no such hook" false)⟩ })]⟩
    routing := { fallback := [⟨"slack", "alerts", some "https://hooks.slack/alerts", true⟩] } }

/-- The entry that a delivery leaves there in its fifth move, claimed for a replay. -/
def refused : DeadLetter :=
  (DeadLetter.new ({ ticks := 3 } : Clock).moment Replay.buildFailed .hook
    (some (.array [.string "build.failed"]))
    (DeliveryFailure.sendFailed 404 "no such hook").message 1).moved .processing ⟨1780272060, 0⟩

theorem held_refused : refused.Held where
  id := by decide
  attempts := by decide
  createdAt := ⟨⟨by decide, by decide⟩, by decide, .inl (by decide)⟩
  updatedAt := ⟨⟨by decide, by decide⟩, by decide, .inl (by decide)⟩
  payload payload h := by
    obtain rfl := Option.some.inj h
    exact .array rfl fun j hj ↦ List.mem_singleton.mp hj ▸ .string _

/-- An entry is left by a delivery whose call failed, and claimed. It is read back with the payload
of the call, and a replay sends that to the address of the call. -/
theorem records_read_back_refused :
    ∃ s, Reaches ⟨refusing, []⟩ s ∧ s.letters.entries = [refused] ∧
      Decode.ofJson DeadLetter.decode refused.toJson = .ok refused ∧
      Replay.Sends refused "https://hooks.slack/alerts" (.array [.string "build.failed"]) ∧
      Decode.ofJson SendResult.decode (SendResult.failure 404 "no such hook" false).toJson =
        .ok (.failure 404 "no such hook" false) := by
  have hplay : (play 0 [0, 0, 0, 0, 0]
      ⟨refusing, [.going (.pending Replay.buildFailed)]⟩).map letters =
        some ⟨[refused.moved .pending ⟨1780272000, 3⟩], {}⟩ := by rfl
  obtain ⟨s, hs, hletters⟩ := Option.map_eq_some_iff.mp hplay
  have hreaches : Reaches ⟨refusing, []⟩
      (s.transitioned refused.id [.pending] .processing ⟨1780272060, 0⟩) :=
    .head (.come Replay.buildFailed) ((reaches_of_play hs).tail (.transition _ _ _ _))
  have hentries : (s.transitioned refused.id [.pending] .processing
      ⟨1780272060, 0⟩).letters.entries = [refused] := by
    change (s.letters.transition _ _ _ _).2.entries = _
    rw [hletters]
    rfl
  obtain ⟨hresult, -, hentry⟩ := records_read_back rfl hreaches
  obtain ⟨hread, before, t, hstems, -, hpayload⟩ :=
    hentry refused (hentries ▸ List.mem_singleton_self _) held_refused
  obtain ⟨-, hsends⟩ := hpayload _ rfl
  rw [← hstems.target_eq] at hsends
  exact ⟨_, hreaches, hentries, hread, hsends,
    hresult _ ⟨⟨by decide, by decide⟩, fun d hd ↦ nomatch hd⟩⟩

end Mailroom

end Courier

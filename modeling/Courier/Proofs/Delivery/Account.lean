import Courier.Delivery.Dispatch
import Courier.Proofs.DeadLetter.Store
import Courier.Proofs.Depot
import Courier.Proofs.Gate.Call

/-!
# The account of a delivery

What is noted of a delivery is each attempt to send and its end (`Delivery.notes`). Over a store in
memory a move of a delivery goes on, sends, ends delivered or ends with a new dead letter
(`Delivery.Moved`, `Delivery.moved_of_step`); it ends delivered only if the sender's last reply was
a success.
-/

set_option autoImplicit false
set_option relaxedAutoImplicit false

namespace Courier

/-- What a delivery is to bring, and where. -/
abbrev Parcel := Notification × Target

/-- What is noted of a delivery. -/
inductive DeliveryNote where
  /-- An attempt to send begins. -/
  | sent (notification : Notification) (target : Target) (record : Sent)
  /-- The delivery ends after a number of attempts, the last of them with a reply of the sender. -/
  | ended (notification : Notification) (report : DeliveryReport) (attempts : ℕ)
    (last : Option Reply)

/-- The sends of a platform's sender so far, the last one first. -/
def Depot.sentTo (d : Depot) (platform : String) : List Sent :=
  ((d.senders.get? platform).map Sender.sent).getD []

/-- Moments were handed out, and routes stayed what they are. -/
structure Depot.Passes (d d' : Depot) : Prop where
  routing : d'.routing = d.routing
  ticks : d.clock.ticks ≤ d'.clock.ticks

theorem Depot.Passes.trans {d d' d'' : Depot} (h : d.Passes d') (h' : d'.Passes d'') :
    d.Passes d'' :=
  ⟨h'.routing.trans h.routing, Nat.le_trans h.ticks h'.ticks⟩

namespace Delivery

/-- What a delivery brings. -/
def parcel (t : Delivery) : Parcel := (t.notification, t.target)

/-- The number of attempts that a delivery has made. -/
def attempts (t : Delivery) : ℕ := (t.call.map GateCall.attempts).getD 0

/-- What is noted of a move of a delivery, by what it turns into. -/
def noted (t : Delivery) (now : ℕ) : Turn Delivery DeliveryReport → List DeliveryNote
  | .done report => [.ended t.notification report t.attempts (t.call.bind GateCall.reply?)]
  | .going next =>
    match t.call, next.call.bind GateCall.reply? with
    | some c, some _ => [.sent t.notification t.target ⟨now, c.url, c.payload⟩]
    | _, _ => []

/-- What is noted of the next move of a delivery. -/
def notes (t : Delivery) (d : Depot) : List DeliveryNote :=
  match t.step d with
  | none => []
  | some (turn, _) => t.noted d.clock.now turn

/-- The moves of a delivery: what it turns into, the depot afterwards and what is noted. -/
inductive Moved (t : Delivery) (d : Depot) :
    Turn Delivery DeliveryReport → Depot → List DeliveryNote → Prop where
  | goes {t' : Delivery} {site : Depot} (hparcel : t'.parcel = t.parcel)
      (hattempts : t'.attempts = t.attempts) (hpasses : d.Passes site)
      (hletters : site.letters = d.letters) (hsent : ∀ p, site.sentTo p = d.sentTo p) :
      Moved t d (.going t') site []
  | sends {t' : Delivery} {record : Sent} {site : Depot} (hparcel : t'.parcel = t.parcel)
      (hattempts : t'.attempts = t.attempts + 1) (hpasses : d.Passes site)
      (hletters : site.letters = d.letters)
      (hsent : ∀ p, site.sentTo p =
        if p = t.target.platform then record :: d.sentTo p else d.sentTo p) :
      Moved t d (.going t') site [.sent t.notification t.target record]
  | delivers {r : SendResult} {site : Depot} (hsuccess : r.success = true)
      (hpasses : d.Passes site) (hletters : site.letters = d.letters)
      (hsent : ∀ p, site.sentTo p = d.sentTo p) :
      Moved t d (.done ⟨t.target, t.attempts, none, none⟩) site
        [.ended t.notification ⟨t.target, t.attempts, none, none⟩ t.attempts (some (.result r))]
  | fails {m : Moment} {payload : Option Json} {failure : DeliveryFailure} {attempts : ℕ}
      {last : Option Reply} {site : Depot} (hpasses : d.Passes site)
      (hminted : Clock.idBase + d.clock.ticks ≤ m.freshId.value)
      (hspent : m.freshId.value < Clock.idBase + site.clock.ticks)
      (hletters : site.letters = d.letters.holding
        (.new m t.notification t.target payload failure.message attempts))
      (hsent : ∀ p, site.sentTo p = d.sentTo p) :
      Moved t d (.done ⟨t.target, attempts, some failure, some m.freshId⟩) site
        [.ended t.notification ⟨t.target, attempts, some failure, some m.freshId⟩ t.attempts last]

variable {t : Delivery} {d : Depot}

/-! ### The end of a delivery -/

theorem fail_eq (hmemory : d.letters.faults = {}) (t : Delivery) (payload : Option Json)
    (failure : DeliveryFailure) (attempts : ℕ) :
    ∃ events, t.fail d payload failure attempts =
      (.done ⟨t.target, attempts, some failure, some d.moment.freshId⟩,
        { d.tick with
          events
          letters := d.letters.holding
            (.new d.moment t.notification t.target payload failure.message attempts) }) := by
  obtain ⟨before, hbefore⟩ := d.tick.report_eq (.failure t.target.resource failure)
  have hstore := DeadLetterStore.store_eq hmemory
    (.new d.moment t.notification t.target payload failure.message attempts)
  obtain ⟨events, hevents⟩ := Depot.report_eq
    { d.tick with
      events := before
      letters := d.letters.holding
        (.new d.moment t.notification t.target payload failure.message attempts) }
    (.deadLetterCreated t.target.resource)
  refine ⟨events, ?_⟩
  simp only [fail, hbefore]
  rw [show ({ d.tick with events := before } : Depot).letters = d.letters from rfl, hstore]
  exact congrArg (Prod.mk _) hevents

/-- A delivery that fails leaves a new dead letter. It may have called the gate before in the same
move. -/
theorem fail_cases {d' : Depot} (hmemory : d.letters.faults = {}) (hpasses : d.Passes d')
    (hletters : d'.letters = d.letters) (hsent : ∀ p, d'.sentTo p = d.sentTo p)
    (payload : Option Json) (failure : DeliveryFailure) (attempts : ℕ) (last : Option Reply) :
    ∃ report site, t.fail d' payload failure attempts = (.done report, site) ∧
      t.Moved d (.done report) site [.ended t.notification report t.attempts last] := by
  obtain ⟨events, heq⟩ := fail_eq (hletters ▸ hmemory) t payload failure attempts
  have hafter : Depot.letters
      { d'.tick with
        events
        letters := d'.letters.holding
          (.new d'.moment t.notification t.target payload failure.message attempts) } =
      d.letters.holding
        (.new d'.moment t.notification t.target payload failure.message attempts) := by
    rw [← hletters]
  refine ⟨_, _, heq, .fails ⟨hpasses.routing, ?_⟩ ?_ ?_ hafter hsent⟩
  · exact Nat.le_succ_of_le hpasses.ticks
  · exact Nat.add_le_add_left hpasses.ticks _
  · exact Nat.add_lt_add_left (Nat.lt_succ_self _) _

/-- A delivery ends with its call: delivered if the gate did, and without success otherwise. -/
theorem finish_cases {d' : Depot} (hmemory : d.letters.faults = {}) (hpasses : d.Passes d')
    (hletters : d'.letters = d.letters) (hsent : ∀ p, d'.sentTo p = d.sentTo p) (payload : Json)
    {answer : GateCall.End} {last : Option Reply}
    (hdelivered : ∀ n r, answer = .ok (.delivered n r) →
      n = t.attempts ∧ last = some (.result r) ∧ r.success = true) :
    ∃ report site, t.finish d' payload answer = (.done report, site) ∧
      t.Moved d (.done report) site [.ended t.notification report t.attempts last] := by
  have hfail : ∀ (payload : Option Json) (failure : DeliveryFailure) (attempts : ℕ),
      ∃ report site, t.fail d' payload failure attempts = (.done report, site) ∧
        t.Moved d (.done report) site [.ended t.notification report t.attempts last] :=
    fun payload failure attempts ↦
      fail_cases hmemory hpasses hletters hsent payload failure attempts last
  cases answer with
  | error reason => exact hfail none _ 0
  | ok outcome =>
    cases outcome with
    | delivered n r =>
      obtain ⟨rfl, rfl, hsuccess⟩ := hdelivered n r rfl
      exact ⟨_, _, rfl, .delivers hsuccess hpasses hletters hsent⟩
    | failed n r => exact hfail (some payload) (.ofResult r) n
    | rejected rejection => exact hfail (some payload) rejection.failure 0

/-! ### Calls -/

/-- The sends on record after a move of a call to the sender of a platform. -/
theorem sentTo_of_call {platform resource : String} {c : GateCall}
    {turn : Turn GateCall GateCall.End} {site : Depot}
    (h : d.call resource platform c = some (turn, site)) :
    d.Passes site ∧ site.letters = d.letters ∧
      ((∃ c', turn = .going c' ∧ c'.reply? = none ∧ c'.attempts = c.attempts ∧
          ∀ p, site.sentTo p = d.sentTo p) ∨
        (∃ c', turn = .going c' ∧ c'.reply?.isSome ∧ c'.attempts = c.attempts + 1 ∧
          ∀ p, site.sentTo p =
            if p = platform then ⟨d.clock.now, c.url, c.payload⟩ :: d.sentTo p else d.sentTo p) ∨
        ∃ answer, turn = .done answer ∧ (∀ p, site.sentTo p = d.sentTo p) ∧
          ∀ n r, answer = .ok (.delivered n r) →
            n = c.attempts ∧ c.reply? = some (.result r) ∧ r.success = true) := by
  obtain ⟨gate, sender, scene, -, hsender, hstep, events, hsite⟩ := Depot.call_eq h
  have hbefore : d.sentTo platform = sender.sent := by simp [Depot.sentTo, hsender]
  have hafter : ∀ p, site.sentTo p = if p = platform then scene.sender.sent else d.sentTo p := by
    intro p
    rw [hsite]
    simp only [Depot.sentTo, SenderRegistry.get?, SenderRegistry.set, Json.lookup_insertMember]
    by_cases hp : p = platform
    · rw [if_pos hp, if_pos hp]
      rfl
    · rw [if_neg hp, if_neg hp]
  have hkept : scene.sender = sender → ∀ p, site.sentTo p = d.sentTo p := by
    intro hsame p
    rw [hafter, hsame, ← hbefore]
    by_cases hp : p = platform
    · rw [if_pos hp, hp]
    · rw [if_neg hp]
  refine ⟨hsite ▸ ⟨rfl, Nat.le_succ _⟩, by rw [hsite]; rfl, ?_⟩
  have hmoved := GateCall.moved_of_step hstep
  simp only at hmoved
  generalize scene.sender = after at hmoved hafter hkept
  cases hmoved with
  | waits hreply hattempts => exact .inl ⟨_, rfl, hreply, hattempts, hkept rfl⟩
  | sends hreply hattempts =>
    refine .inr (.inl ⟨_, rfl, by simp [hreply], hattempts, fun p ↦ ?_⟩)
    rw [hafter]
    by_cases hp : p = platform
    · rw [if_pos hp, if_pos hp, hp, hbefore]
      rfl
    · rw [if_neg hp, if_neg hp]
  | ends hdelivered => exact .inr (.inr ⟨_, rfl, hkept rfl, hdelivered⟩)

/-! ### All moves -/

/-- A delivery begins with a call or fails at once. -/
theorem start_cases (hmemory : d.letters.faults = {}) (hcall : t.call = none) :
    (∃ c site, t.start d = (.going { t with call := some c }, site) ∧ c.reply? = none ∧
      t.Moved d (.going { t with call := some c }) site []) ∨
    ∃ report site, t.start d = (.done report, site) ∧
      t.Moved d (.done report) site [.ended t.notification report t.attempts none] := by
  have hfail : ∀ (payload : Option Json) (failure : DeliveryFailure) (attempts : ℕ),
      ∃ report site, t.fail d payload failure attempts = (.done report, site) ∧
        t.Moved d (.done report) site [.ended t.notification report t.attempts none] :=
    fun payload failure attempts ↦
      fail_cases hmemory ⟨rfl, Nat.le_refl _⟩ rfl (fun _ ↦ rfl) payload failure attempts none
  unfold start
  split
  · exact .inr (hfail none _ 0)
  · exact .inr (hfail none _ 0)
  · split
    · exact .inr (hfail _ _ 0)
    · split
      · exact .inr (hfail none _ 0)
      · exact .inl ⟨_, _, rfl, rfl, .goes rfl (by simp [attempts, hcall, GateCall.attempts])
          ⟨rfl, Nat.le_refl _⟩ rfl fun _ ↦ rfl⟩

theorem moved_of_step {turn : Turn Delivery DeliveryReport} {site : Depot}
    (hmemory : d.letters.faults = {}) (h : t.step d = some (turn, site)) :
    t.Moved d turn site (t.notes d) := by
  have hnotes : t.notes d = t.noted d.clock.now turn := by rw [notes, h]
  rw [hnotes]
  cases hcall : t.call with
  | none =>
    rw [step, hcall] at h
    obtain ⟨c, after, hstart, hreply, hmoved⟩ | ⟨report, after, hstart, hmoved⟩ :=
      start_cases hmemory hcall
    · obtain ⟨rfl, rfl⟩ := Prod.mk.inj ((Option.some.inj h).symm.trans hstart)
      simpa only [noted, hcall] using hmoved
    · obtain ⟨rfl, rfl⟩ := Prod.mk.inj ((Option.some.inj h).symm.trans hstart)
      simpa only [noted, hcall, Option.bind_none] using hmoved
  | some c =>
    rw [step, hcall] at h
    simp only at h
    split at h
    · exact absurd h (by simp)
    · rename_i c' after hmove
      obtain ⟨rfl, rfl⟩ := Prod.mk.inj (Option.some.inj h)
      obtain ⟨hpasses, hletters, ⟨next, heq, hreply, hcount, hsent⟩ |
        ⟨next, heq, hreply, hcount, hsent⟩ | ⟨answer, heq, -⟩⟩ := sentTo_of_call hmove
      · obtain rfl := Turn.going.inj heq
        have hmoved : t.Moved d (.going { t with call := some c' }) after [] :=
          .goes rfl (by simpa [attempts, hcall] using hcount) hpasses hletters hsent
        simpa only [noted, hcall, Option.bind_some, hreply] using hmoved
      · obtain rfl := Turn.going.inj heq
        obtain ⟨reply, hreply⟩ := Option.isSome_iff_exists.mp hreply
        have hmoved : t.Moved d (.going { t with call := some c' }) after
            [.sent t.notification t.target ⟨d.clock.now, c.url, c.payload⟩] :=
          .sends rfl (by simpa [attempts, hcall] using hcount) hpasses hletters hsent
        simpa only [noted, hcall, Option.bind_some, hreply] using hmoved
      · exact absurd heq (by simp)
    · rename_i answer after hmove
      obtain ⟨hpasses, hletters, ⟨next, heq, -⟩ | ⟨next, heq, -⟩ |
        ⟨result, heq, hsent, hdelivered⟩⟩ := sentTo_of_call hmove
      · exact absurd heq (by simp)
      · exact absurd heq (by simp)
      · obtain rfl := Turn.done.inj heq
        obtain ⟨report, ended, hfinish, hmoved⟩ :=
          t.finish_cases hmemory hpasses hletters hsent c.payload
            (by simpa [attempts, hcall] using hdelivered)
        obtain ⟨rfl, rfl⟩ := Prod.mk.inj ((Option.some.inj h).symm.trans hfinish)
        simpa only [noted, hcall, Option.bind_some] using hmoved

end Delivery

end Courier

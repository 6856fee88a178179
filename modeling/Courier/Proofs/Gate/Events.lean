import Courier.Proofs.Gate.Advance
import Courier.Proofs.Gate.Call

/-!
# What a call reports

Seen by what it reports, a call makes one of seven moves (`GateCall.Says`,
`GateCall.says_of_advance`). It reports each attempt when it begins, and of its end a success or
that it was turned away; an attempt that fails is reported only if there will be another one.
Heeding a provider adds the signal of the provider, which says nothing of the call.
-/

set_option autoImplicit false
set_option relaxedAutoImplicit false

namespace Courier

namespace Event

/-- The event is the rate limit of a provider. -/
def isSignal : Event → Bool
  | .externalRateLimit .. => true
  | _ => false

/-- The event is reported by a delivery or a replay, and by no call. -/
def isVerdict : Event → Bool
  | .failure .. | .deadLetterCreated _ | .deadLetterHandlerFailed _ => true
  | _ => false

theorem not_isVerdict_of_isSignal {e : Event} (h : e.isSignal = true) : e.isVerdict = false := by
  cases e <;> simp_all [isSignal, isVerdict]

end Event

/-- What is reported of a call that is turned away. -/
def Rejection.event (resource : String) : Rejection → Event
  | .bulkheadFull => .bulkheadFull resource
  | .rateLimited => .rateLimited resource
  | .circuitOpen => .skipped resource

theorem GateScene.events_of_heeded {s s' : GateScene} (h : s.Heeded s') :
    ∃ signals, s'.events = signals ++ s.events ∧ ∀ e ∈ signals, Event.isSignal e = true := by
  cases h with
  | nothing => exact ⟨[], rfl, by simp⟩
  | throttled retryAfter => exact ⟨[_], rfl, by simp [Event.isSignal]⟩

namespace GateCall

/-- The moves of a call by what it reports, the latest first. -/
inductive Says (resource : String) (c : GateCall) : Turn GateCall GateCall.End → List Event → Prop
  where
  /-- The call waits for slot or admission. -/
  | waits {c' : GateCall} (hbefore : c.reply? = none) (hafter : c'.reply? = none) :
      Says resource c (.going c') []
  /-- An attempt begins. -/
  | attempts {c' : GateCall} (hbefore : c.reply? = none) (hafter : c'.reply?.isSome) :
      Says resource c (.going c') [.attempt resource]
  /-- An attempt has failed and there will be another one. -/
  | retries {c' : GateCall} {n : ℕ} {signals : List Event} (hbefore : c.reply?.isSome)
      (hafter : c'.reply? = none) (hsignals : ∀ e ∈ signals, Event.isSignal e = true) :
      Says resource c (.going c') (.retry resource n :: signals)
  | delivers {n : ℕ} {r : SendResult} (hbefore : c.reply?.isSome) :
      Says resource c (.done (.ok (.delivered n r))) [.success resource]
  | fails {n : ℕ} {r : SendResult} {signals : List Event} (hbefore : c.reply?.isSome)
      (hsignals : ∀ e ∈ signals, Event.isSignal e = true) :
      Says resource c (.done (.ok (.failed n r))) signals
  | rejected {rejection : Rejection} (hbefore : c.reply? = none) :
      Says resource c (.done (.ok (.rejected rejection))) [rejection.event resource]
  | crashes {reason : Crash} {signals : List Event}
      (hsignals : ∀ e ∈ signals, Event.isSignal e = true) :
      Says resource c (.done (.error reason)) signals

variable {f : Feedback} {m : Moment} {c : GateCall} {s s' : GateScene} {resource : String}
  {turn : Turn GateCall GateCall.End}

theorem says_of_advance (h : Advance f m c s turn s') (hnone : s.events = []) :
    Says s.gate.resource c turn s'.events := by
  have hsignals : ∀ {heeded : GateScene}, s.Heeded heeded →
      ∀ e ∈ heeded.events, Event.isSignal e = true := by
    intro heeded hheeded
    obtain ⟨signals, heq, hsignals⟩ := GateScene.events_of_heeded hheeded
    rwa [heq, hnone, List.append_nil]
  cases h with
  | queues hphase | enters hphase | polls hphase =>
    change Says _ c _ s.events
    rw [hnone]
    exact .waits (by rw [reply?, hphase]) rfl
  | full hphase =>
    change Says _ c _ (Rejection.event s.gate.resource .bulkheadFull :: s.events)
    rw [hnone]
    exact .rejected (by rw [reply?, hphase])
  | limited hphase =>
    change Says _ c _ (Rejection.event s.gate.resource .rateLimited :: s.events)
    rw [hnone]
    exact .rejected (by rw [reply?, hphase])
  | skipped hphase =>
    change Says _ c _ (Rejection.event s.gate.resource .circuitOpen :: s.events)
    rw [hnone]
    exact .rejected (by rw [reply?, hphase])
  | overflows hphase =>
    change Says _ c _ s.events
    rw [hnone]
    exact .crashes (by simp)
  | admitted hphase | resumes hphase =>
    change Says _ c _ (.attempt s.gate.resource :: s.events)
    rw [hnone]
    exact .attempts (by rw [reply?, hphase]) rfl
  | delivers hphase =>
    change Says _ c _ (.success s.gate.resource :: s.events)
    rw [hnone]
    exact .delivers (by rw [reply?, hphase]; rfl)
  | retries hphase hheeded =>
    exact .retries (by rw [reply?, hphase]; rfl) rfl (hsignals hheeded)
  | fails hphase hfailure hheeded =>
    exact .fails (by rw [reply?, hphase]; rfl) fun e he ↦ hsignals hheeded e he
  | crashes hphase hheeded => exact .crashes fun e he ↦ hsignals hheeded e he

/-- What a call reports says nothing of how a delivery ends. -/
theorem Says.not_isVerdict {events : List Event} (h : Says resource c turn events) :
    ∀ e ∈ events, Event.isVerdict e = false := by
  cases h with
  | waits => simp
  | attempts | delivers => simp [Event.isVerdict]
  | retries hbefore hafter hsignals =>
    intro e he
    obtain rfl | he := List.mem_cons.mp he
    · rfl
    · exact Event.not_isVerdict_of_isSignal (hsignals e he)
  | fails hbefore hsignals | crashes hsignals =>
    exact fun e he ↦ Event.not_isVerdict_of_isSignal (hsignals e he)
  | @rejected rejection => cases rejection <;> simp [Rejection.event, Event.isVerdict]

end GateCall

end Courier

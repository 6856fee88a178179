import Courier.Depot

/-!
# Replays

A replay tries a dead letter again. It claims the entry, so that no one else replays it; sends the payload
that was kept, or renders the notification anew from what was kept of it; and settles the entry as
resolved or abandoned. Settling is tried again when the medium fails, after a growing pause, up to three
times in all; an entry that cannot be settled stays in processing.

`ReplayAll` replays all pending entries one after the other, oldest first.
-/

set_option autoImplicit false
set_option relaxedAutoImplicit false

namespace Courier

/-- What became of a replay. -/
inductive ReplayOutcome where
  | resolved (attempts : Nat)
  | abandoned (failure : DeliveryFailure)
  deriving DecidableEq, Repr

/-- How far a replay has come. -/
inductive Replay.Phase where
  | begun
  | calling (entry : DeadLetter) (call : GateCall)
  /-- The result is known; the entry is to be settled, after a pause if it was tried before. -/
  | settling (outcome : ReplayOutcome) (attempt wake : Nat)

/-- A replay. -/
structure Replay where
  id : EntryId
  phase : Replay.Phase := .begun

namespace Replay

/-- How often settling is tried. -/
def settleAttempts : Nat := 3

/-- The pause before settling is tried again, for each attempt made. -/
def settlePause : Duration := .ofMillis 100

/-- A replay with more to do, or its end. -/
abbrev Next := Turn Replay (Except StoreError ReplayOutcome) × Depot

/-- The states from which an entry may be claimed. -/
def claimable (d : Depot) : List DeadLetterStatus :=
  if d.allowAbandoned then [.pending, .abandoned] else [.pending]

/-- The notification kept in an entry, which occurred when the entry was made. -/
def restore (e : DeadLetter) : Except DeliveryFailure Notification :=
  match Json.ofText e.context with
  | .error flaw => .error (.formatFailed ("unreadable context snapshot: " ++ flaw.message))
  | .ok context =>
    let fields : Notification.Fields :=
      { typeId := e.typeId, category := e.category, occurredAt := some e.createdAt, context }
    match fields.build e.createdAt with
    | .error reason => .error (.formatFailed reason.message)
    | .ok n => .ok n

/-- The payload to send for an entry. -/
def payload (d : Depot) (e : DeadLetter) : Except Crash (Except DeliveryFailure Json) :=
  match e.payload with
  | some payload => .ok (.ok payload)
  | none =>
    match restore e with
    | .error failure => .ok (.error failure)
    | .ok n => d.render n e.target.platform

/-- The replay is over but for settling the entry. -/
def conclude (t : Replay) (d : Depot) (e : DeadLetter) (result : Except DeliveryFailure Nat) :
    Next :=
  match result with
  | .ok attempts =>
    (.going { t with phase := .settling (.resolved attempts) 1 d.clock.now }, d)
  | .error failure =>
    (.going { t with phase := .settling (.abandoned failure) 1 d.clock.now },
      d.report (.failure e.target.resource failure))

/-- Goes on with a claimed entry. -/
def claimed (t : Replay) (d : Depot) (e : DeadLetter) : Next :=
  match payload d e with
  | .error reason => t.conclude d e (.error (.crashed reason.message))
  | .ok (.error failure) => t.conclude d e (.error failure)
  | .ok (.ok payload) =>
    if (d.senders.get? e.target.platform).isNone then t.conclude d e (.error .noSender)
    else
      match d.gates.gate e.target.resource with
      | .error reason => t.conclude d e (.error (.crashed reason.message))
      | .ok (_, gates) =>
        (.going { t with phase := .calling e { url := e.target.url, payload } }, { d with gates })

/-- Claims the entry. -/
def claim (t : Replay) (d : Depot) : Next :=
  match d.letters.transition t.id (claimable d) .processing d.moment.stamp with
  | (.error reason, letters) => (.done (.error reason), { d.tick with letters })
  | (.ok e, letters) => t.claimed { d.tick with letters } e

/-- The result of a call that has ended. -/
def callResult : GateCall.End → Except DeliveryFailure Nat
  | .error reason => .error (.crashed reason.message)
  | .ok outcome =>
    match outcome.failure? with
    | none => .ok outcome.attempts
    | some failure => .error failure

/-- The state in which an entry ends. -/
def finalStatus : ReplayOutcome → DeadLetterStatus
  | .resolved _ => .resolved
  | .abandoned _ => .abandoned

/-- Tries to settle the entry. -/
def settle (t : Replay) (d : Depot) (outcome : ReplayOutcome) (attempt : Nat) : Next :=
  match d.letters.transition t.id [.processing] (finalStatus outcome) d.moment.stamp with
  | (.ok _, letters) => (.done (.ok outcome), { d.tick with letters })
  | (.error (.backend reason), letters) =>
    let d : Depot := { d.tick with letters }
    if attempt < settleAttempts then
      let wake := d.moment.deadline ⟨settlePause.nanos * attempt⟩
      (.going { t with phase := .settling outcome (attempt + 1) wake }, d)
    else (.done (.error (.backend reason)), d)
  | (.error reason, letters) => (.done (.error reason), { d.tick with letters })

/-- Makes one move of a replay; none if it must wait. -/
def step (t : Replay) (d : Depot) : Option Next :=
  match t.phase with
  | .begun => some (t.claim d)
  | .calling e c =>
    match d.call e.target.resource e.target.platform c with
    | none => none
    | some (.going c, d) => some (.going { t with phase := .calling e c }, d)
    | some (.done result, d) => some (t.conclude d e (callResult result))
  | .settling outcome attempt wake =>
    if wake ≤ d.clock.now then some (t.settle d outcome attempt) else none

/-- Takes back what a replay holds of its gate that is given up. The entry stays as it is. -/
def cancel (t : Replay) (d : Depot) : Depot :=
  match t.phase with
  | .calling e c => d.cancelCall e.target.resource e.target.platform c
  | _ => d

/-- The instants at which a waiting replay may move by itself. -/
def deadlines (t : Replay) : List Nat :=
  match t.phase with
  | .begun => []
  | .calling _ c => c.deadlines
  | .settling _ _ wake => [wake]

end Replay

/-- What became of the replays of all pending entries. -/
structure ReplaySummary where
  resolved : Nat := 0
  abandoned : Nat := 0
  /-- Entries that someone else had claimed. -/
  rejected : Nat := 0
  deriving DecidableEq, Repr

/-- Replays of all pending entries. -/
inductive ReplayAll where
  | begun
  /-- The entries still to be replayed, and the replay under way. -/
  | replaying (waiting : List EntryId) (current : Option Replay) (summary : ReplaySummary)

namespace ReplayAll

/-- Replays with more to do, or their end. -/
abbrev Next := Turn ReplayAll (Except StoreError ReplaySummary) × Depot

/-- Counts the end of a replay; an error of the medium ends all. -/
def count (s : ReplaySummary) : Except StoreError ReplayOutcome → Except StoreError ReplaySummary
  | .ok (.resolved _) => .ok { s with resolved := s.resolved + 1 }
  | .ok (.abandoned _) => .ok { s with abandoned := s.abandoned + 1 }
  | .error (.invalidTransition ..) | .error (.notFound _) =>
    .ok { s with rejected := s.rejected + 1 }
  | .error (.backend reason) => .error (.backend reason)

/-- Makes one move; none if the replay under way must wait. -/
def step (t : ReplayAll) (d : Depot) : Option Next :=
  match t with
  | .begun =>
    match d.letters.list .pending with
    | (.error reason, letters) => some (.done (.error reason), { d with letters })
    | (.ok entries, letters) =>
      some (.going (.replaying (entries.map DeadLetter.id) none {}), { d with letters })
  | .replaying [] none summary => some (.done (.ok summary), d)
  | .replaying (id :: waiting) none summary =>
    some (.going (.replaying waiting (some { id }) summary), d)
  | .replaying waiting (some replay) summary =>
    match replay.step d with
    | none => none
    | some (.going replay, d) => some (.going (.replaying waiting (some replay) summary), d)
    | some (.done result, d) =>
      match count summary result with
      | .error reason => some (.done (.error reason), d)
      | .ok summary => some (.going (.replaying waiting none summary), d)

/-- Takes back what the replay under way holds that is given up. -/
def cancel (t : ReplayAll) (d : Depot) : Depot :=
  match t with
  | .replaying _ (some replay) _ => replay.cancel d
  | _ => d

/-- The instants at which the waiting replay may move by itself. -/
def deadlines : ReplayAll → List Nat
  | .replaying _ (some replay) _ => replay.deadlines
  | _ => []

end ReplayAll

end Courier

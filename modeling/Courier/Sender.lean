import Courier.Crash
import Courier.Delivery.SendResult
import Courier.Invalid
import Courier.Text.Quoted

/-!
# Senders

A sender hands payloads to the provider of a platform. For the service a sender is what it does at
each of its calls: how long the call takes and what it comes to. The calls are numbered in the order
in which they begin, and each is kept on record.
-/

set_option autoImplicit false
set_option relaxedAutoImplicit false

namespace Courier

/-- What a call comes to. -/
inductive Reply where
  | result (result : SendResult)
  | crash (crash : Crash)

/-- The course of one call. -/
structure Plan where
  delay : Duration
  reply : Reply

/-- A call that was begun. -/
structure Sent where
  /-- On the running clock. -/
  time : Nat
  url : String
  payload : Json

/-- A sender. -/
structure Sender where
  /-- The course of each call, by its number. -/
  plan : Nat → Plan
  /-- The calls begun under this plan. -/
  calls : Nat := 0
  /-- All calls begun so far, the last one first. -/
  sent : List Sent := []

namespace Sender

/-- The payload is taken at once. -/
def prompt : Plan := ⟨.zero, .result (.ok 200)⟩

/-- The plan that follows a list and stays at its last course; an empty list always succeeds. -/
def script (plans : List Plan) (call : Nat) : Plan :=
  plans.getD (min call (plans.length - 1)) prompt

/-- A sender that only writes to the log, and always succeeds. -/
def log : Sender := { plan := fun _ => prompt }

/-- Begins a call; its course comes with it. -/
def start (s : Sender) (now : Nat) (url : String) (payload : Json) : Plan × Sender :=
  (s.plan s.calls,
    { s with calls := s.calls + 1, sent := ⟨now, url, payload⟩ :: s.sent })

/-- Follows another plan from its beginning. -/
def follow (s : Sender) (plan : Nat → Plan) : Sender := { s with plan, calls := 0 }

end Sender

/-- Senders by platform, in the order of platforms. -/
structure SenderRegistry where
  senders : List (String × Sender) := []

namespace SenderRegistry

/-- The sender of a platform. -/
def get? (r : SenderRegistry) (platform : String) : Option Sender :=
  Json.lookup platform r.senders

/-- Puts a sender in the place of the one that a platform has. -/
def set (r : SenderRegistry) (platform : String) (sender : Sender) : SenderRegistry :=
  ⟨Json.insertMember platform sender r.senders⟩

/-- Adds the sender of a platform that has none yet. -/
def register (r : SenderRegistry) (platform : String) (sender : Sender) :
    Except RegistryError SenderRegistry :=
  if (r.get? platform).isSome then .error (.duplicateSender platform)
  else .ok (r.set platform sender)

/-- The platforms in order. -/
def platforms (r : SenderRegistry) : List String := r.senders.map Prod.fst

/-- The number of senders. -/
def size (r : SenderRegistry) : Nat := r.senders.length

/-- The registry in one line. -/
def summary (r : SenderRegistry) : String :=
  "SenderRegistry \x7b platforms: " ++ Text.quoteAll r.platforms ++ " \x7d"

end SenderRegistry

end Courier

import Courier.Delivery.Target
import Courier.EntryId
import Courier.Json.Writer
import Courier.Moment
import Courier.Notification.Basic
import Courier.Timestamp.Text

/-!
# Dead letters

A delivery that failed leaves a dead letter: what is needed to try again later. The notification is
kept by type, category and the text of its context; its metadata and the time at which it occurred are
not. An entry is pending until someone claims it for a replay, and is then resolved or abandoned.
-/

set_option autoImplicit false
set_option relaxedAutoImplicit false

namespace Courier

/-- The state of a dead letter. -/
inductive DeadLetterStatus where
  | pending
  | processing
  | resolved
  | abandoned
  deriving DecidableEq, Repr

namespace DeadLetterStatus

/-- All states in order. -/
def all : List DeadLetterStatus := [pending, processing, resolved, abandoned]

/-- The name of a state. -/
def name : DeadLetterStatus → String
  | pending => "PENDING"
  | processing => "PROCESSING"
  | resolved => "RESOLVED"
  | abandoned => "ABANDONED"

/-- A state by its name. -/
def decode : Decode.Decoder DeadLetterStatus :=
  Decode.choice (all.map fun status => (status.name, status))

end DeadLetterStatus

/-- A dead letter. -/
structure DeadLetter where
  id : EntryId
  typeId : String
  category : String
  /-- The text of the context. -/
  context : String
  target : Target
  /-- The payload, if the notification was rendered. -/
  payload : Option Json
  reason : String
  status : DeadLetterStatus
  attempts : Nat
  createdAt : Timestamp
  updatedAt : Timestamp

namespace DeadLetter

/-- The dead letter of a delivery that fails at a moment. -/
def new (m : Moment) (n : Notification) (target : Target) (payload : Option Json)
    (reason : String) (attempts : Nat) : DeadLetter where
  id := m.freshId
  typeId := n.typeId
  category := n.category
  context := n.context.text
  target := target
  payload := payload
  reason := reason
  status := .pending
  attempts := attempts
  createdAt := m.stamp
  updatedAt := m.stamp

/-- The record of a dead letter. -/
def toJson (e : DeadLetter) : Json :=
  .ofMembers
    [("id", .string e.id.text), ("type_id", .string e.typeId), ("category", .string e.category),
     ("context", .string e.context), ("target", e.target.toJson),
     ("payload", e.payload.getD .null), ("reason", .string e.reason),
     ("status", .string e.status.name), ("attempts", .ofNat e.attempts),
     ("created_at", .string e.createdAt.text), ("updated_at", .string e.updatedAt.text)]

/-- The form of a dead letter's record. -/
def form : Decode.Form DeadLetter where
  title := "a dead letter"
  blank :=
    { id := .nil, typeId := "", category := "", context := "", target := ⟨"", "", ""⟩
      payload := none, reason := "", status := .pending, attempts := 0
      createdAt := ⟨0, 0⟩, updatedAt := ⟨0, 0⟩ }
  fields :=
    [Decode.field "id" .required EntryId.decode fun e x => { e with id := x },
     Decode.field "type_id" .required Decode.string fun e s => { e with typeId := s },
     Decode.field "category" .required Decode.string fun e s => { e with category := s },
     Decode.field "context" .required Decode.string fun e s => { e with context := s },
     Decode.field "target" .required Target.decode fun e t => { e with target := t },
     Decode.field "payload" .omittable (Decode.optional Decode.json)
       fun e p => { e with payload := p },
     Decode.field "reason" .required Decode.string fun e s => { e with reason := s },
     Decode.field "status" .required DeadLetterStatus.decode fun e s => { e with status := s },
     Decode.field "attempts" .required Decode.natural32 fun e n => { e with attempts := n },
     Decode.field "created_at" .required Timestamp.decode fun e t => { e with createdAt := t },
     Decode.field "updated_at" .required Timestamp.decode fun e t => { e with updatedAt := t }]

/-- A dead letter from its record. -/
def decode : Decode.Decoder DeadLetter := Decode.record form

/-- Older entries come first, of equal age those of smaller identifier. -/
def comesBefore (a b : DeadLetter) : Bool :=
  a.createdAt.before b.createdAt || (a.createdAt = b.createdAt && a.id.value ≤ b.id.value)

end DeadLetter

end Courier

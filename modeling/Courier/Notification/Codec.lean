import Courier.Notification.Basic
import Courier.Decode.Record
import Courier.Timestamp.Text

/-!
# Notifications as JSON

A notification is written as a record of its five fields. Read back, the time, the context and the
metadata may be missing, and the fields are checked as for a new notification.
-/

set_option autoImplicit false
set_option relaxedAutoImplicit false

namespace Courier.Notification

/-- The metadata as an object. -/
def metadataJson (metadata : List (String × String)) : Json :=
  .object (metadata.map fun entry => (entry.1, .string entry.2))

/-- The record of a notification. -/
def toJson (n : Notification) : Json :=
  .ofMembers
    [("type_id", .string n.typeId),
     ("category", .string n.category),
     ("occurred_at", .string n.occurredAt.text),
     ("context", n.context),
     ("metadata", metadataJson n.metadata)]

/-- The form of a notification's record. -/
def form : Decode.Form Fields where
  title := "a notification"
  blank := { typeId := "", category := "" }
  fields :=
    [Decode.field "type_id" .required Decode.string fun n s => { n with typeId := s },
     Decode.field "category" .required Decode.string fun n s => { n with category := s },
     Decode.field "occurred_at" .defaulted (Decode.optional Timestamp.decode)
       fun n t => { n with occurredAt := t },
     Decode.field "context" .defaulted Decode.json fun n c => { n with context := c },
     Decode.field "metadata" .defaulted (Decode.table Decode.string)
       fun n m => { n with metadata := m }]

/-- A notification from its record. -/
def decode (now : Timestamp) : Decode.Decoder Notification :=
  Decode.checked (Decode.record form) fun fields =>
    match fields.build now with
    | .ok n => .ok n
    | .error reason => .error reason.message

end Courier.Notification

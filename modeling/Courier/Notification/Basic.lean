import Courier.Invalid
import Courier.Json.Basic
import Courier.Timestamp.Basic

/-!
# Notifications

A notification says that something of a type, in a category, occurred at a time; its context is any
JSON value and its metadata a table of texts. `Notification.Fields` is what a producer hands over;
`build` checks it and fills in the time. The type is checked before the category and the category
before the keys of the metadata.
-/

set_option autoImplicit false
set_option relaxedAutoImplicit false

namespace Courier

/-- An event on its way to its targets. -/
structure Notification where
  typeId : String
  category : String
  occurredAt : Timestamp
  context : Json
  /-- In key order, each key once. -/
  metadata : List (String × String)

/-- A notification before it is checked. -/
structure Notification.Fields where
  typeId : String
  category : String
  occurredAt : Option Timestamp := none
  context : Json := .null
  metadata : List (String × String) := []

/-- Adds a metadata entry; a later one for the same key wins. -/
def Notification.Fields.withMetadata (fields : Notification.Fields) (key value : String) :
    Notification.Fields :=
  { fields with metadata := Json.insertMember key value fields.metadata }

/-- What is wrong with the fields, if anything. -/
def Notification.Fields.invalid? (fields : Notification.Fields) : Option Invalid :=
  match firstBlank? [("type_id", fields.typeId), ("category", fields.category)] with
  | some field => some (.blank field)
  | none =>
    if fields.metadata.any fun entry => Text.isBlank entry.1 then some .blankMetadataKey else none

/-- The notification of valid fields. Without a time of its own it occurred `now`. -/
def Notification.Fields.build (fields : Notification.Fields) (now : Timestamp) :
    Except Invalid Notification :=
  match fields.invalid? with
  | some reason => .error reason
  | none =>
    .ok
      { typeId := fields.typeId
        category := fields.category
        occurredAt := fields.occurredAt.getD now
        context := fields.context
        metadata := fields.metadata }

end Courier

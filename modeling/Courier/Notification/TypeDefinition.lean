import Courier.Invalid
import Courier.Decode.Record

/-!
# Notification types

A type definition describes one kind of notification: its identifier, a title for people, a default
message and a category. `TypeDefinition.new` refuses blank identifiers, titles and categories. A
definition that is read from its record is taken as it is.

`TypeRegistry` holds definitions under their identifiers, each identifier once and for good.
-/

set_option autoImplicit false
set_option relaxedAutoImplicit false

namespace Courier

/-- What is known about a kind of notification. -/
structure TypeDefinition where
  id : String
  title : String
  defaultMessage : String
  category : String
  schemaVersion : Option String := none
  deriving DecidableEq, Repr

namespace TypeDefinition

/-- A definition whose identifier, title and category are not blank. -/
def new (id title defaultMessage category : String) : Except Invalid TypeDefinition :=
  match firstBlank? [("id", id), ("title", title), ("category", category)] with
  | some field => .error (.blank field)
  | none => .ok { id, title, defaultMessage, category }

/-- The definition with a schema version. -/
def withSchemaVersion (d : TypeDefinition) (version : String) : TypeDefinition :=
  { d with schemaVersion := some version }

/-- The record of a definition; a schema version that is not there is left out. -/
def toJson (d : TypeDefinition) : Json :=
  .ofMembers <|
    [("id", .string d.id), ("title", .string d.title),
     ("default_message", .string d.defaultMessage), ("category", .string d.category)] ++
    (d.schemaVersion.toList.map fun version => ("schema_version", .string version))

/-- The form of a definition's record. -/
def form : Decode.Form TypeDefinition where
  title := "a notification type"
  blank := { id := "", title := "", defaultMessage := "", category := "" }
  fields :=
    [Decode.field "id" .required Decode.string fun d s => { d with id := s },
     Decode.field "title" .required Decode.string fun d s => { d with title := s },
     Decode.field "default_message" .required Decode.string
       fun d s => { d with defaultMessage := s },
     Decode.field "category" .required Decode.string fun d s => { d with category := s },
     Decode.field "schema_version" .defaulted (Decode.optional Decode.string)
       fun d s => { d with schemaVersion := s }]

/-- A definition from its record. -/
def decode : Decode.Decoder TypeDefinition := Decode.record form

end TypeDefinition

/-- Type definitions by identifier, in the order of identifiers. -/
structure TypeRegistry where
  definitions : List (String × TypeDefinition) := []

namespace TypeRegistry

/-- The definition of an identifier. -/
def get? (types : TypeRegistry) (id : String) : Option TypeDefinition :=
  Json.lookup id types.definitions

/-- The definition of an identifier, or the reason why there is none. -/
def get (types : TypeRegistry) (id : String) : Except RegistryError TypeDefinition :=
  match types.get? id with
  | some d => .ok d
  | none => .error (.typeNotFound id)

/-- A definition exists for the identifier. -/
def contains (types : TypeRegistry) (id : String) : Bool := (types.get? id).isSome

/-- Adds a definition whose identifier is still free. -/
def register (types : TypeRegistry) (d : TypeDefinition) : Except RegistryError TypeRegistry :=
  if types.contains d.id then .error (.duplicateType d.id)
  else .ok ⟨Json.insertMember d.id d types.definitions⟩

/-- The identifiers in order. -/
def ids (types : TypeRegistry) : List String := types.definitions.map Prod.fst

/-- The number of definitions. -/
def size (types : TypeRegistry) : Nat := types.definitions.length

/-- Nothing is registered. -/
def isEmpty (types : TypeRegistry) : Bool := types.definitions.isEmpty

end TypeRegistry

end Courier

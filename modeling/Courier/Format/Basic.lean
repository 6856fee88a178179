import Courier.Crash
import Courier.Notification.TypeDefinition
import Courier.Notification.Basic

/-!
# Formatters

A formatter renders a notification into the payload that a platform understands. It may refuse: the
context is not of the shape it needs, or rendering fails; and it may crash. `Formatter.typed` makes
a formatter of a decoder for the context and a function that renders what was decoded.
-/

set_option autoImplicit false
set_option relaxedAutoImplicit false

namespace Courier

/-- Why a formatter refuses a notification. -/
inductive FormatError where
  | contextMismatch (expected reason : String)
  | render (reason : String)
  | serialization (reason : String)
  deriving DecidableEq, Repr

namespace FormatError

/-- The wording. -/
def message : FormatError → String
  | contextMismatch expected reason => "expected context of type " ++ expected ++ ": " ++ reason
  | render reason => "render failed: " ++ reason
  | serialization reason => "serialization error: " ++ reason

/-- The context has the wrong shape. -/
def isContextMismatch : FormatError → Bool
  | contextMismatch .. => true
  | _ => false

end FormatError

/-- What became of rendering a notification. -/
inductive Rendering where
  | payload (value : Json)
  | refused (reason : FormatError)
  | crashed (crash : Crash)

/-- Renders notifications; it may look up their types. -/
structure Formatter where
  /-- The name of the type of context it needs, if it needs one. -/
  contextType : Option String := none
  format : TypeRegistry → Notification → Rendering

/-- A formatter for contexts that a decoder accepts. -/
def Formatter.typed {α : Type} (contextType : String) (decode : Decode.Decoder α)
    (render : Notification → α → Rendering) : Formatter where
  contextType := some contextType
  format := fun _ n =>
    match Decode.ofJson decode n.context with
    | .ok context => render n context
    | .error fault => .refused (.contextMismatch contextType fault.message)

/-- A payload with nothing in it: `null`, a blank text, or no items or members. -/
def isEmptyPayload : Json → Bool
  | .null => true
  | .string s => Text.isBlank s
  | .array items => items.isEmpty
  | .object members => members.isEmpty
  | .bool _ | .number _ => false

end Courier

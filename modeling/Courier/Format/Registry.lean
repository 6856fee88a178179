import Courier.Format.Basic

/-!
# Formatter registries

A formatter is registered for a platform and a type, or as the fallback of a platform. Each place
is given once. `resolve` looks for the type first and for the fallback then.
-/

set_option autoImplicit false
set_option relaxedAutoImplicit false

namespace Courier

/-- The place of a formatter. -/
structure FormatterKey where
  platform : String
  /-- The type it is for; none for a fallback. -/
  typeId : Option String
  deriving DecidableEq, Repr

namespace FormatterKey

/-- The key is that of a fallback. -/
def isFallback (key : FormatterKey) : Bool := key.typeId.isNone

/-- The key as a text. -/
def text (key : FormatterKey) : String := key.platform ++ "/" ++ key.typeId.getD "*"

/-- Why a second formatter is not taken. -/
def duplicate (key : FormatterKey) : RegistryError :=
  match key.typeId with
  | some typeId => .duplicateFormatter key.platform typeId
  | none => .duplicateFallback key.platform

end FormatterKey

/-- Formatters by their keys, in the order in which they were registered. -/
structure FormatterRegistry where
  entries : List (FormatterKey × Formatter) := []

namespace FormatterRegistry

/-- The formatter of a key. -/
def get? (r : FormatterRegistry) (key : FormatterKey) : Option Formatter :=
  (r.entries.find? fun e => e.1 = key).map Prod.snd

/-- Adds a formatter at a place that is still free. -/
def register (r : FormatterRegistry) (key : FormatterKey) (formatter : Formatter) :
    Except RegistryError FormatterRegistry :=
  if (r.get? key).isSome then .error key.duplicate
  else .ok ⟨r.entries ++ [(key, formatter)]⟩

/-- The formatter for a type on a platform. -/
def resolve (r : FormatterRegistry) (platform typeId : String) : Option Formatter :=
  r.get? ⟨platform, some typeId⟩ <|> r.get? ⟨platform, none⟩

/-- The platform has a fallback. -/
def hasFallback (r : FormatterRegistry) (platform : String) : Bool :=
  (r.get? ⟨platform, none⟩).isSome

/-- The number of formatters. -/
def size (r : FormatterRegistry) : Nat := r.entries.length

/-- The keys as texts, in order. -/
def keyTexts (r : FormatterRegistry) : List String :=
  (r.entries.map fun e => e.1.text).mergeSort fun a b => decide (a ≤ b)

/-- The registry in one line. -/
def summary (r : FormatterRegistry) : String :=
  "FormatterRegistry \x7b keys: " ++ Text.quoteAll r.keyTexts ++ " \x7d"

end FormatterRegistry

end Courier

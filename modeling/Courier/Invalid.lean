import Courier.Text.Blank

/-!
# Invalid values and registrations

The reasons for which a notification or a type definition is not built, and the reasons for which a
registry turns a request down, with their wording.
-/

set_option autoImplicit false
set_option relaxedAutoImplicit false

namespace Courier

/-- Why a value is not built. -/
inductive Invalid where
  | blank (field : String)
  | blankMetadataKey
  deriving DecidableEq, Repr

/-- The wording. -/
def Invalid.message : Invalid → String
  | blank field => field ++ " must not be blank"
  | blankMetadataKey => "metadata keys must not be blank"

/-- The first of the named texts that is blank. -/
def firstBlank? : List (String × String) → Option String
  | [] => none
  | (field, text) :: rest => if Text.isBlank text then some field else firstBlank? rest

/-- Why a registry turns a request down. -/
inductive RegistryError where
  | duplicateType (id : String)
  | typeNotFound (id : String)
  | duplicateFormatter (platform typeId : String)
  | duplicateFallback (platform : String)
  | duplicateSender (platform : String)
  deriving DecidableEq, Repr

/-- The wording. -/
def RegistryError.message : RegistryError → String
  | duplicateType id => "notification type already registered: " ++ id
  | typeNotFound id => "notification type not found: " ++ id
  | duplicateFormatter platform typeId =>
    "formatter already registered for " ++ platform ++ "/" ++ typeId
  | duplicateFallback platform =>
    "fallback formatter already registered for platform " ++ platform
  | duplicateSender platform => "sender already registered for platform " ++ platform

end Courier

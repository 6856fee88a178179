import Courier.Decode.Record

/-!
# Delivery targets

A target is an endpoint of a platform with the address to send to. Platform and endpoint name the
resource that all calls to the endpoint share.
-/

set_option autoImplicit false
set_option relaxedAutoImplicit false

namespace Courier

/-- Where a notification is to be delivered. -/
structure Target where
  platform : String
  endpoint : String
  url : String
  deriving DecidableEq, Repr

namespace Target

/-- The name of the shared resource of an endpoint. -/
def resource (t : Target) : String := t.platform ++ ":" ++ t.endpoint

/-- The record of a target. -/
def toJson (t : Target) : Json :=
  .ofMembers
    [("platform", .string t.platform), ("endpoint_key", .string t.endpoint),
     ("url", .string t.url)]

/-- The form of a target's record. -/
def form : Decode.Form Target where
  title := "a target"
  blank := ⟨"", "", ""⟩
  fields :=
    [Decode.field "platform" .required Decode.string fun t s => { t with platform := s },
     Decode.field "endpoint_key" .required Decode.string fun t s => { t with endpoint := s },
     Decode.field "url" .required Decode.string fun t s => { t with url := s }]

/-- A target from its record. -/
def decode : Decode.Decoder Target := Decode.record form

end Target

end Courier

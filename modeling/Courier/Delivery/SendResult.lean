import Courier.Duration

/-!
# Results of sending

What one attempt to send came to: whether the provider took the payload, its status code, what went
wrong, whether the same request may succeed later, and how long the provider asks to wait. A failure
of the transport has no status of its own and is given the code minus one.
-/

set_option autoImplicit false
set_option relaxedAutoImplicit false

namespace Courier

/-- What became of one attempt. -/
structure SendResult where
  success : Bool
  code : Int
  error : Option String := none
  retryable : Bool
  retryAfter : Option Duration := none
  deriving DecidableEq, Repr

namespace SendResult

/-- The code of an attempt that reached no provider. -/
def networkErrorCode : Int := -1

/-- The code of a provider that is asked too often. -/
def tooManyRequests : Int := 429

/-- The payload was taken. -/
def ok (code : Int) : SendResult := { success := true, code, retryable := false }

/-- The payload was not taken. -/
def failure (code : Int) (message : String) (retryable : Bool) : SendResult :=
  { success := false, code, error := some message, retryable }

/-- The provider was not reached; a later attempt may reach it. -/
def networkError (message : String) : SendResult := failure networkErrorCode message true

/-- The provider turned the call down because there were too many. -/
def rateLimited (message : String) (retryAfter : Option Duration) : SendResult :=
  { success := false, code := tooManyRequests, error := some message, retryable := true, retryAfter }

/-- The class of a response by its status: the two hundreds are successes, 429 is the provider's own
rate limit, the five hundreds may pass, and all others are for good. -/
def ofStatus (status : Nat) (body : String) (retryAfter : Option Duration) : SendResult :=
  let message := "HTTP " ++ toString status ++ ": " ++ body
  if 200 ≤ status ∧ status ≤ 299 then ok status
  else if status = 429 then rateLimited message retryAfter
  else failure status message (500 ≤ status ∧ status ≤ 599)

/-- The provider limits the rate of calls. -/
def isRateLimited (r : SendResult) : Bool := !r.success && r.code = tooManyRequests

/-- What went wrong; nothing to say of a success. -/
def errorMessage (r : SendResult) : String := r.error.getD ""

/-- The record of a result; what is not there is left out. -/
def toJson (r : SendResult) : Json :=
  .ofMembers <|
    [("success", .bool r.success), ("status_code", .ofInt r.code),
     ("retryable", .bool r.retryable)] ++
    (r.error.toList.map fun message => ("error", .string message)) ++
    (r.retryAfter.toList.map fun d => ("retry_after", d.toJson))

/-- The form of a result's record. -/
def form : Decode.Form SendResult where
  title := "a send result"
  blank := { success := false, code := 0, retryable := false }
  fields :=
    [Decode.field "success" .required Decode.bool fun r b => { r with success := b },
     Decode.field "status_code" .required Decode.integer32 fun r n => { r with code := n },
     Decode.field "error" .omittable (Decode.optional Decode.string)
       fun r s => { r with error := s },
     Decode.field "retryable" .required Decode.bool fun r b => { r with retryable := b },
     Decode.field "retry_after" .omittable (Decode.optional Duration.decode)
       fun r d => { r with retryAfter := d }]

/-- A result from its record. -/
def decode : Decode.Decoder SendResult := Decode.record form

end SendResult

end Courier

import Courier.Delivery.SendResult

/-!
# Delivery failures

Why a delivery to one target ended without success. Each failure has a label for counting and a
wording for people, and is written as its label with a detail where it has one.
-/

set_option autoImplicit false
set_option relaxedAutoImplicit false

namespace Courier

/-- Why a delivery failed. -/
inductive DeliveryFailure where
  | noFormatter
  | contextMismatch (message : String)
  | formatFailed (message : String)
  | emptyPayload
  | noSender
  | bulkheadFull
  | rateLimited
  | circuitOpen
  | sendFailed (code : Int) (message : String)
  | crashed (message : String)
  deriving DecidableEq, Repr

namespace DeliveryFailure

/-- The label. -/
def kind : DeliveryFailure → String
  | noFormatter => "no_formatter"
  | contextMismatch _ => "context_mismatch"
  | formatFailed _ => "format_failed"
  | emptyPayload => "empty_payload"
  | noSender => "no_sender"
  | bulkheadFull => "bulkhead_full"
  | rateLimited => "rate_limited"
  | circuitOpen => "circuit_open"
  | sendFailed .. => "send_failed"
  | crashed _ => "panicked"

/-- The wording. -/
def message : DeliveryFailure → String
  | noFormatter => "no formatter"
  | contextMismatch m => "context type mismatch: " ++ m
  | formatFailed m => "formatting failed: " ++ m
  | emptyPayload => "formatter produced an empty payload"
  | noSender => "no sender"
  | bulkheadFull => "bulkhead full"
  | rateLimited => "rate limited"
  | circuitOpen => "skipped: circuit open"
  | sendFailed code m => "send failed (" ++ toString code ++ "): " ++ m
  | crashed m => "unexpected panic: " ++ m

/-- The failure of a call that ended with the given result. -/
def ofResult (r : SendResult) : DeliveryFailure := .sendFailed r.code r.errorMessage

/-- The detail, for the failures that have one. -/
def detail? : DeliveryFailure → Option Json
  | contextMismatch m | formatFailed m | crashed m => some (.string m)
  | sendFailed code m =>
    some (.ofMembers [("status_code", .ofInt code), ("message", .string m)])
  | _ => none

/-- The record of a failure. -/
def toJson (f : DeliveryFailure) : Json :=
  .ofMembers (("kind", .string f.kind) :: (f.detail?.toList.map fun d => ("detail", d)))

/-- The form of the detail of a failed send. -/
def sendFailedForm : Decode.Form (Int × String) where
  title := "the detail of a failed send"
  blank := (0, "")
  fields :=
    [Decode.field "status_code" .required Decode.integer32 fun p n => (n, p.2),
     Decode.field "message" .required Decode.string fun p s => (p.1, s)]

/-- A failed send. Its detail has to be an object. -/
def failedSend : Decode.Decoder DeliveryFailure
  | dialect, draft@(.array ..) => Decode.unexpected dialect draft sendFailedForm.title
  | dialect, draft => (Decode.record sendFailedForm dialect draft).map fun p => .sendFailed p.1 p.2

/-- A failure without detail; a detail that is there must be empty. -/
def bare (f : DeliveryFailure) : Decode.Decoder DeliveryFailure
  | _, .null => .ok f
  | dialect, draft => Decode.unexpected dialect draft "no detail"

/-- A failure with a text. -/
def texted (make : String → DeliveryFailure) : Decode.Decoder DeliveryFailure :=
  fun dialect draft => (Decode.string dialect draft).map make

/-- The reader of the detail for each label, and what stands for a detail that is missing. -/
def variants : List (String × Option DeliveryFailure × Decode.Decoder DeliveryFailure) :=
  [("no_formatter", some .noFormatter, bare .noFormatter),
   ("context_mismatch", none, texted .contextMismatch),
   ("format_failed", none, texted .formatFailed),
   ("empty_payload", some .emptyPayload, bare .emptyPayload),
   ("no_sender", some .noSender, bare .noSender),
   ("bulkhead_full", some .bulkheadFull, bare .bulkheadFull),
   ("rate_limited", some .rateLimited, bare .rateLimited),
   ("circuit_open", some .circuitOpen, bare .circuitOpen),
   ("send_failed", none, failedSend),
   ("panicked", none, texted .crashed)]

/-- A label and a detail found in an object, each at most once. -/
structure Parts where
  label : Option (Option DeliveryFailure × Decode.Decoder DeliveryFailure) := none
  detail : Option Json.Draft := none

/-- Looks for label and detail among the members of an object. The label is read where it stands. -/
def findParts (dialect : Decode.Dialect) :
    List (Except Json.Flaw String × Json.Draft) → Parts → Except Decode.Fault Parts
  | [], parts => .ok parts
  | (.error f, _) :: _, _ => Decode.flawed f
  | (.ok key, draft) :: rest, parts =>
    if key = "kind" then
      if parts.label.isSome then Decode.fail (.duplicateField key)
      else
        match Decode.choice variants dialect draft with
        | .error f => .error f
        | .ok label => findParts dialect rest { parts with label := some label }
    else if key = "detail" then
      if parts.detail.isSome then Decode.fail (.duplicateField key)
      else findParts dialect rest { parts with detail := some draft }
    else
      match Decode.skip draft with
      | .error f => .error f
      | .ok () => findParts dialect rest parts

/-- The failure of a label and a detail. -/
def ofParts (dialect : Decode.Dialect) (parts : Parts) : Except Decode.Fault DeliveryFailure :=
  match parts.label, parts.detail with
  | none, _ => Decode.fail (.missingField "kind")
  | some (_, read), some draft => read dialect draft
  | some (some f, _), none => .ok f
  | some (none, _), none => Decode.fail (.missingField "detail")

/-- A failure from its record: an object of label and detail, or an array of the two. -/
def decode : Decode.Decoder DeliveryFailure
  | dialect, .object members stop => do
    let inner ← Decode.liftFlaw dialect.enter
    let parts ← findParts inner members {}
    let failure ← ofParts inner parts
    Decode.closing stop
    return failure
  | dialect, .array (label :: detail :: rest) stop => do
    let inner ← Decode.liftFlaw dialect.enter
    let (_, read) ← Decode.choice variants inner label
    let failure ← read inner detail
    Decode.closeItems dialect (rest.length + 2) rest stop
    return failure
  | dialect, .array [label] _ => do
    let inner ← Decode.liftFlaw dialect.enter
    let _ ← Decode.choice variants inner label
    Decode.fail (.invalidLength 1 "a label and a detail")
  | _, .array [] _ => Decode.fail (.invalidLength 0 "a label and a detail")
  | dialect, draft => Decode.unexpected dialect draft "a delivery failure"

end DeliveryFailure

end Courier

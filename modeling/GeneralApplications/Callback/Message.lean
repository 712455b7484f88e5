import GeneralApplications.Callback.Stage
import GeneralApplications.Case.Snapshot

/-!
# Callback messages

What the platform sends with a callback and what it gets back.
-/

namespace GeneralApplications

open Json (Codec Layout Object)

/-- A callback. The event is kept as text, so that an event this service does not know can be
named in the answer. -/
structure CallbackRequest where
  eventId : String
  snapshot : CaseSnapshot
  before : Option CaseSnapshot
  deriving DecidableEq, Repr

/-- The answer to a callback. Errors block the submission; data replaces the case data. -/
structure CallbackResponse where
  data : Option Object
  errors : List String
  warnings : List String
  state : Option String
  confirmationHeader : Option String
  confirmationBody : Option String
  deriving DecidableEq, Repr

namespace CallbackResponse

/-- Nothing to change and nothing to report. -/
def empty : CallbackResponse :=
  ⟨none, [], [], none, none, none⟩

/-- The case data as the answer gives it. -/
def withData (data : Object) : CallbackResponse :=
  { empty with data := some data }

/-- The case data together with errors. -/
def withErrors (data : Object) (errors : List String) : CallbackResponse :=
  { empty with data := some data, errors := errors }

end CallbackResponse

/-! ## Wire forms -/

section
variable {τ : Type} [Json.Readable τ]

/-- The wire form of a callback. -/
def CallbackRequest.codec : Codec τ CallbackRequest :=
  .record "CallbackRequest" <| CallbackRequest.mk
    <$> Layout.required "event_id" (·.eventId) .string
    <*> Layout.required "case_details" (·.snapshot) CaseSnapshot.codec
    <*> Layout.optional "case_details_before" (·.before) CaseSnapshot.codec

/-- The wire form of an answer. -/
def CallbackResponse.codec : Codec τ CallbackResponse :=
  .record "CallbackResponse" <| CallbackResponse.mk
    <$> Layout.optional "data" (·.data) .object
    <*> Layout.defaulted "errors" [] [] (·.errors) (.list .string)
    <*> Layout.defaulted "warnings" [] [] (·.warnings) (.list .string)
    <*> Layout.optional "state" (·.state) .string
    <*> Layout.optional "confirmation_header" (·.confirmationHeader) .string
    <*> Layout.optional "confirmation_body" (·.confirmationBody) .string

end

end GeneralApplications

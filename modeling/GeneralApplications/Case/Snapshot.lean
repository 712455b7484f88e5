import GeneralApplications.Case.Event
import GeneralApplications.Case.Record

/-!
# Case snapshots

What is exchanged with the case-data platform: a case as the platform returns it, the answer to a
started event, and the submission that completes the event.
-/

namespace GeneralApplications

open Json (Codec Layout Object)

/-- A case as the platform returns it: its envelope and its data. -/
structure CaseSnapshot where
  id : CaseReference
  jurisdiction : Option String
  caseType : Option String
  state : Option String
  data : Object
  deriving DecidableEq, Repr

/-- The platform's answer to a started event: the token that authorises the submission, and the
case as it stood when the event began. -/
structure StartedEvent where
  token : String
  snapshot : CaseSnapshot
  eventId : Option String
  deriving DecidableEq, Repr

/-- The submission that completes a started event. -/
structure EventSubmission where
  token : String
  event : EventDescription
  data : Object
  ignoreWarning : Bool
  deriving DecidableEq, Repr

section
variable {τ : Type} [Json.Readable τ]

/-- The wire form of a snapshot. -/
def CaseSnapshot.codec : Codec τ CaseSnapshot :=
  .record "CaseDetails" <| CaseSnapshot.mk
    <$> Layout.required "id" (·.id) CaseReference.codec
    <*> Layout.optional "jurisdiction" (·.jurisdiction) .string
    <*> Layout.optional "case_type_id" (·.caseType) .string
    <*> Layout.optional "state" (·.state) .string
    <*> Layout.defaulted "case_data" ["data"] ∅ (·.data) .object

/-- The wire form of a started event. -/
def StartedEvent.codec : Codec τ StartedEvent :=
  .record "StartEventResponse" <| StartedEvent.mk
    <$> Layout.required "token" (·.token) .string
    <*> Layout.required "case_details" (·.snapshot) CaseSnapshot.codec
    <*> Layout.optional "event_id" (·.eventId) .string

/-- The wire form of a submission. -/
def EventSubmission.codec : Codec τ EventSubmission :=
  .record "CaseDataContent" <| EventSubmission.mk
    <$> Layout.required "event_token" (·.token) .string
    <*> Layout.required "event" (·.event) EventDescription.codec
    <*> Layout.required "data" (·.data) .object
    <*> Layout.defaulted "ignore_warning" [] false (·.ignoreWarning) .bool

end

end GeneralApplications

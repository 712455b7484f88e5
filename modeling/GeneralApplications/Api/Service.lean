import GeneralApplications.Api.Description
import GeneralApplications.Failure

/-!
# The API of this service

The published description of the two operations: callbacks and the health check.
-/

namespace GeneralApplications.Api

/-- A text. -/
def aText : Schema := .plain "string"

/-- A text that may be missing. -/
def maybeText : Schema := .nullable "string"

/-- A property that has to be there. -/
def need (name : String) (schema : Schema) : Property :=
  ⟨name, schema, true, none⟩

/-- A property that may be left out. -/
def may (name : String) (schema : Schema) : Property :=
  ⟨name, schema, false, none⟩

/-- The property with a description. -/
def Property.meaning (p : Property) (description : String) : Property :=
  { p with description := some description }

/-! ## What is exchanged -/

/-- Failures. -/
def failure : Component where
  name := "AppError"
  description := "Structured application error returned by every service and handler."
  form := .record [
    need "kind" (.component "AppErrorKind"),
    need "message" aText,
    (may "cause" maybeText).meaning
      "Underlying error reported by a collaborator, kept for diagnostics."]

/-- Kinds of failure. -/
def failureKind : Component where
  name := "AppErrorKind"
  description := "Categorization of application errors."
  form := .choice (Failure.Kind.all.map (·.name))

/-- Callbacks. -/
def callbackRequest : Component where
  name := "CallbackRequest"
  description := "Body the case-data platform posts to a callback URL."
  form := .record [
    (need "event_id" aText).meaning
      ("Kept as text so that events this service does not know can be\n" ++
        "reported back instead of failing deserialization."),
    need "case_details" (.component "CaseDetails"),
    may "case_details_before" (.optionalComponent "CaseDetails")]

/-- Answers to callbacks. -/
def callbackResponse : Component where
  name := "CallbackResponse"
  description := "Reply to a callback. \x60errors\x60 block the user's submission; \x60data\x60\n" ++
    "replaces the case data when present."
  form := .record [
    may "data" (.nullable "object"),
    may "errors" (.list aText),
    may "warnings" (.list aText),
    may "state" maybeText,
    may "confirmation_header" maybeText,
    may "confirmation_body" maybeText]

/-- Cases. -/
def caseDetails : Component where
  name := "CaseDetails"
  description := "A case snapshot as the platform returns it."
  form := .record [
    need "id" (.integer none),
    may "jurisdiction" maybeText,
    may "case_type_id" maybeText,
    may "state" maybeText,
    may "case_data" (.plain "object")]

/-- The state of the service. -/
def healthResponse : Component where
  name := "HealthResponse"
  description := "Health check response."
  form := .record [
    need "status" aText,
    need "uptime_seconds" (.integer (some 0)),
    need "version" aText,
    (need "events" (.list aText)).meaning
      "Event identifiers this instance will accept callbacks for."]

/-! ## Operations -/

/-- A callback of the platform. -/
def callbackOperation : Operation where
  path := "/cases/callbacks/\x7bcallback_type\x7d"
  method := "post"
  id := "handle_callback"
  summary := "POST /cases/callbacks/\x7bcallback_type\x7d"
  tag := "callbacks"
  parameters := [⟨"callback_type", "about-to-start, mid, about-to-submit or submitted"⟩]
  body := some callbackRequest.name
  answers := [
    ⟨200, "Callback handled", callbackResponse.name⟩,
    ⟨400, "Unknown callback type or malformed case data", failure.name⟩,
    ⟨404, "No handler for the event", failure.name⟩,
    ⟨502, "Notification or case data service failure", failure.name⟩]

/-- The health check. -/
def healthOperation : Operation where
  path := "/health"
  method := "get"
  id := "health_check"
  summary := "Health check handler."
  tag := "health"
  parameters := []
  body := none
  answers := [⟨200, "Service is healthy", healthResponse.name⟩]

/-- The API of this service. -/
def service : Description where
  title := "General Application Decisions API"
  description := "Callback handlers for judicial decisions on general applications"
  version := "1.0.0"
  operations := [callbackOperation, healthOperation]
  components := [failure, failureKind, callbackRequest, callbackResponse, caseDetails,
    healthResponse]
  tags := [⟨"callbacks", "Case event callbacks from the case-data platform"⟩,
    ⟨"health", "Health check endpoint"⟩]

end GeneralApplications.Api

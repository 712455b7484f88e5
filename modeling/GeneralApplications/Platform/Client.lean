import GeneralApplications.Case.Snapshot
import GeneralApplications.Config.Settings
import GeneralApplications.Errand
import GeneralApplications.Http.Exchange
import GeneralApplications.Http.Status
import GeneralApplications.Json.Printer

/-!
# The platform over HTTP

The two steps of a case update as requests to the case-data platform: an event is started by a `GET`
of its trigger and completed by a `POST` to the events of the case. Every request carries the
tokens of the settings. An answer without success, or one that cannot be read, is a failure.
-/

namespace GeneralApplications

open Http (Outgoing Exchange TransportError Payload)
open Json (Codec Document)

/-- A request to the platform whose outcome may be a failure. -/
abbrev PlatformCall : Type → Type :=
  ExceptT Failure Exchange

/-- A transport error as a failure. -/
def Failure.ofTransport (e : TransportError) : Failure :=
  let message := match e with
    | .unreachable _ => "Case data service is unreachable"
    | .unreadable => "Case data service returned an unreadable response"
    | .malformed _ | .dropped _ => "Case data service request failed"
  (of .platformFailure message).withCause e.message

/-- The kind of failure that an answer without success stands for. -/
def Failure.Kind.ofStatus (status : Nat) : Failure.Kind :=
  if status = 401 then .unauthorized
  else if status = 403 then .forbidden
  else if status = 404 then .notFound
  else .platformFailure

/-- An answer without success as a failure; its body is the cause. -/
def Failure.ofAnswer (status : Nat) (body : Option String) : Failure :=
  (of (.ofStatus status) ("Case data service error (" ++ Http.statusText status ++ ")")).withCause
    (body.getD "")

/-- The value that an answer holds. -/
def readAnswer {α : Type} (c : Codec Document α) (status : Nat) (body : Option String) :
    Except Failure α :=
  if Http.isSuccess status then
    match body with
    | none => .error (.ofTransport .unreadable)
    | some text =>
      match Json.readText c.decode text with
      | .ok a => .ok a
      | .error _ => .error (.ofTransport .unreadable)
  else .error (.ofAnswer status body)

namespace PlatformSettings

/-- The headers of every request. -/
def headers (s : PlatformSettings) : List (String × String) :=
  [("authorization", "Bearer " ++ s.userToken), ("serviceauthorization", s.serviceToken),
   ("experimental", "true")]

/-- Sends a request to a path below the base URL and reads its answer. -/
def call {α : Type} (s : PlatformSettings) (c : Codec Document α) (method path : String)
    (payload : Option Json) : PlatformCall α :=
  .mk do
    let typed := if payload.isSome then [("content-type", "application/json")] else []
    match Outgoing.ofParts method (s.baseUrl ++ path) (s.headers ++ typed)
        (payload.map Payload.json) with
    | .error e => return .error (.ofTransport e)
    | .ok request =>
      match ← request.send.run with
      | .error e => return .error (.ofTransport e)
      | .ok (status, body) => return readAnswer c status body

/-- Starts an event on a case. -/
def start (s : PlatformSettings) (case : CaseReference) (event : CaseEvent) :
    PlatformCall StartedEvent :=
  s.call StartedEvent.codec "GET"
    ("/cases/" ++ case.text ++ "/event-triggers/" ++ event.name) none

/-- Completes a started event on a case. -/
def submit (s : PlatformSettings) (case : CaseReference) (content : EventSubmission) :
    PlatformCall CaseSnapshot :=
  s.call CaseSnapshot.codec "POST" ("/cases/" ++ case.text ++ "/events")
    (some ((EventSubmission.codec : Codec Json EventSubmission).encode content))

/-- Carries errands out over HTTP: the platform's by requests to it, notifications as `notify`
says. -/
def carryOut (s : PlatformSettings) (notify : CaseRecord → Exchange (Except String Unit)) :
    (e : Errand) → Exchange e.Outcome
  | .start case event => (s.start case event).run
  | .submit case content => (s.submit case content).run
  | .notify record => notify record

end PlatformSettings

end GeneralApplications

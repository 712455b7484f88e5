import GeneralApplications.Callback.Registry
import GeneralApplications.Config.Settings
import GeneralApplications.Http.MediaType
import GeneralApplications.Http.Message
import GeneralApplications.Http.Percent
import GeneralApplications.Text.Scanner

/-!
# The service

How requests are answered. The path decides the route, the route the methods it accepts. A callback
passes a fixed order of checks, each with its own answer: the stage's path segment must be UTF-8,
the content type JSON, the body small enough and the JSON text of a callback, and the segment the
name of a stage; only then is the registry asked.
-/

namespace GeneralApplications.Http

open Json (Codec Document)

/-! ## Routes -/

/-- What a path leads to. -/
inductive Route where
  /-- The callbacks of a stage, under the path segment as it was sent. -/
  | callback (segment : List Char)
  | health
  | documentation
  | unknown
  deriving DecidableEq, Repr

/-- Everything in front of the segment that names a stage. -/
def callbackRoot : List Char :=
  "/cases/callbacks/".toList

/-- The route of a path. A callback's segment is not empty and the last of its path. -/
def Route.ofPath (path : List Char) : Route :=
  if path = "/health".toList then .health
  else if path = "/docs".toList then .documentation
  else
    match Text.dropBeginning? callbackRoot path with
    | some (c :: r) => if (c :: r).contains '/' then .unknown else .callback (c :: r)
    | _ => .unknown

/-! ## Answers -/

/-- The answer to a path that leads nowhere. -/
def notFound : Response :=
  .plain 404 ""

/-- The answer to a method that the route does not accept. -/
def methodNotAllowed (allow : String) : Response :=
  { Response.plain 405 "" with allow := some allow }

/-- The answer to a route that is only read. -/
def readOnly (method : String) (answer : Response) : Response :=
  if method = "GET" then answer
  else if method = "HEAD" then answer.headersOnly
  else methodNotAllowed "GET,HEAD"

/-- The state of the service: it is up, and these are the events whose callbacks it handles. The time
since its start is not kept, and is always 0 here. -/
def health (registry : CallbackRegistry) : Json :=
  .object [("status", .string "ok"), ("uptime_seconds", .ofInt 0), ("version", .string version),
    ("events", .ofStrings (registry.events.map (·.name)))]

/-- A failure as an answer. -/
def ofFailure (f : Failure) : Response :=
  .json f.status ((Failure.codec : Codec Json Failure).encode f)

/-! ## Callbacks -/

/-- The greatest size of a request's body in bytes. -/
def maxBody : Nat := 2097152

/-- The answer to a body that is not the text of a callback. Where the text is malformed, what is
wrong with it and in which line is left out of the answer. -/
def ofRejection (r : Json.Rejection) : Response :=
  match r.reason with
  | .malformed _ => .plain 400 "Failed to parse the request body as JSON"
  | _ => .plain 422 ("Failed to deserialize the JSON body into the target type: " ++ r.located)

/-- A callback request as far as it can be read: the decoded segment and the message. -/
def readCallback (segment : List Char) (r : Request) :
    Except Response (String × CallbackRequest) := do
  let some segment := decodePart? (String.ofList segment)
    | throw (.plain 400 "Invalid URL: Invalid UTF-8 in \x60callback_type\x60")
  if !announcesJson r.contentType then
    throw (.plain 415 "Expected request with \x60Content-Type: application/json\x60")
  if maxBody < r.body.utf8ByteSize then
    throw (.plain 413 "Failed to buffer the request body: length limit exceeded")
  let request ← (Json.readText (CallbackRequest.codec : Codec Document _).decode r.body).mapError
    ofRejection
  return (segment, request)

/-- Hands a callback to the registry. -/
def callback (registry : CallbackRegistry) (segment : String) (request : CallbackRequest) :
    Procedure CallbackResponse := do
  let stage ← Procedure.require (CallbackStage.ofName? segment)
    (.of .badRequest ("Invalid callback type: " ++ segment))
  registry.dispatch stage request

/-- The answer to a callback that could be read. -/
def ofOutcome (outcome : Except Failure CallbackResponse) : Response :=
  match outcome with
  | .ok r => .json 200 ((CallbackResponse.codec : Codec Json CallbackResponse).encode r)
  | .error f => ofFailure f

/-- Answers a request. -/
def respond (registry : CallbackRegistry) (r : Request) : Errands Response :=
  match Route.ofPath (path r.target) with
  | .unknown => return notFound
  | .health => return readOnly r.method (.json 200 (health registry))
  | .documentation => return readOnly r.method ⟨200, .page, none⟩
  | .callback segment =>
    if r.method ≠ "POST" then return methodNotAllowed "POST"
    else
      match readCallback segment r with
      | .error answer => return answer
      | .ok (segment, request) => do return ofOutcome (← (callback registry segment request).run)

end GeneralApplications.Http

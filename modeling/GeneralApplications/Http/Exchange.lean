import GeneralApplications.Dialogue
import GeneralApplications.Http.Url
import GeneralApplications.Json.Basic

/-!
# Exchanges

Requests that this service sends to others, and what comes back. Who answers is not known here: a
computation that sends requests is a dialogue, and a `Script` is one way of answering it. What can
go wrong on the way is a `TransportError`.
-/

namespace GeneralApplications.Http

/-- The content of a request to another service. -/
inductive Payload where
  | json (document : Json)
  /-- Names and values of a form, in order. -/
  | form (fields : List (String × String))
  deriving DecidableEq, Repr

/-- A request to another service. -/
structure Outgoing where
  method : String
  url : Url
  headers : List (String × String)
  payload : Option Payload
  deriving DecidableEq, Repr

/-- What comes of a request. -/
inductive Reply where
  /-- Nobody listens. -/
  | unreachable
  /-- The connection is closed without an answer. -/
  | dropped
  /-- A status with a body; the body is missing if it breaks off. A body is a text: bytes that are
  not UTF-8 are no reply here. -/
  | answered (status : Nat) (body : Option String)
  deriving DecidableEq, Repr

/-- A computation that sends requests. -/
abbrev Exchange : Type → Type :=
  Dialogue Outgoing fun _ => Reply

/-! ## Errors -/

/-- What can go wrong with a request. -/
inductive TransportError where
  /-- The request cannot be formed; the URL is named if it is at fault and could be read. -/
  | malformed (url : Option Url)
  /-- Nobody listens at the URL. -/
  | unreachable (url : Url)
  /-- The connection was closed. -/
  | dropped (url : Url)
  /-- The body of an answer cannot be read. -/
  | unreadable
  deriving DecidableEq, Repr

/-- The wording of an error. -/
def TransportError.message : TransportError → String
  | malformed none => "builder error"
  | malformed (some url) => "builder error for url (" ++ url.text ++ ")"
  | unreachable url => "error sending request for url (" ++ url.text ++ ")"
  | dropped url => "error sending request for url (" ++ url.text ++ ")"
  | unreadable => "error decoding response body"

/-! ## Sending -/

/-- A header value can be sent: it has no controls but tabs. -/
def isHeaderValue (s : String) : Bool :=
  s.toList.all fun c => c = '\t' || (32 ≤ c.toNat && c.toNat ≠ 127)

/-- A request to the URL that a text denotes, which is sent without its credentials. A text without a host
is at fault first, then a header value, then a URL to which no request can be sent. -/
def Outgoing.ofParts (method url : String) (headers : List (String × String))
    (payload : Option Payload) : Except TransportError Outgoing := do
  let some u := Url.ofText? url | throw (.malformed none)
  if !u.hasHost then throw (.malformed (some u))
  if !headers.all (isHeaderValue ·.2) then throw (.malformed none)
  let u := u.withoutCredentials
  if !u.isRequestable then throw (.malformed (some u))
  return ⟨method, u, headers, payload⟩

/-- Sends a request and waits for the status and the body. -/
def Outgoing.send (r : Outgoing) : ExceptT TransportError Exchange (Nat × Option String) :=
  .mk do
    match ← Dialogue.question (A := fun _ => Reply) r with
    | .unreachable => return .error (.unreachable r.url)
    | .dropped => return .error (.dropped r.url)
    | .answered status body => return .ok (status, body)

/-! ## Answering -/

/-- Somebody who gives the replies of a list, one for each request, and then a fixed one, and who
keeps the requests, the last one first. -/
structure Script where
  replies : List Reply
  received : List Outgoing

namespace Script

/-- The reply after the last one. -/
def unscripted : Reply :=
  .answered 500 (some "unscripted")

/-- Answers a request. -/
def answer (r : Outgoing) : StateM Script Reply := fun s =>
  match s.replies with
  | [] => (unscripted, ⟨[], r :: s.received⟩)
  | reply :: rest => (reply, ⟨rest, r :: s.received⟩)

/-- Runs a computation against a list of replies: its result and the requests it sent. -/
def run {α : Type} (replies : List Reply) (m : Exchange α) : α × List Outgoing :=
  let (a, s) := m.interpret answer ⟨replies, []⟩
  (a, s.received.reverse)

end Script

/-- Runs a computation where nobody listens: no request is received. -/
def runUnreachable {α : Type} (m : Exchange α) : α :=
  (m.interpret fun _ => (pure .unreachable : Id Reply)).run

end GeneralApplications.Http

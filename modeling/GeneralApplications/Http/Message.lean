import GeneralApplications.Json.Basic

/-!
# Requests and answers

An HTTP request as the service receives it and the answer it gives, without the headers that no
part of the service looks at. The body of a request is a text: one whose bytes are not UTF-8 is no
request here.
-/

namespace GeneralApplications.Http

/-- A request to this service. -/
structure Request where
  method : String
  target : String
  contentType : Option String
  body : String
  deriving DecidableEq, Repr

/-- What an answer holds. -/
inductive Content where
  /-- A JSON document, or none where only the headers are sent. -/
  | json (document : Option Json)
  /-- The page that shows the API documentation. -/
  | page
  | plain (text : String)
  deriving DecidableEq, Repr

/-- An answer of this service. `allow` lists the methods that would have been accepted. -/
structure Response where
  status : Nat
  content : Content
  allow : Option String
  deriving DecidableEq, Repr

namespace Response

/-- A text, possibly empty, under a status. -/
def plain (status : Nat) (text : String) : Response :=
  ⟨status, .plain text, none⟩

/-- A JSON document under a status. -/
def json (status : Nat) (j : Json) : Response :=
  ⟨status, .json (some j), none⟩

/-- The answer without its JSON document. -/
def headersOnly (r : Response) : Response :=
  match r.content with
  | .json _ => { r with content := .json none }
  | .page | .plain _ => r

end Response

/-- The path of a request's target: what stands between the authority, if there is one, and the
query. -/
def path (target : String) : List Char :=
  let cs := target.toList
  let local? (c : Char) : Bool := c ≠ '?' && c ≠ '#'
  match cs with
  | '/' :: _ => cs.takeWhile local?
  | _ =>
    match cs.dropWhile (· ≠ ':') with
    | ':' :: '/' :: '/' :: r =>
      match (r.dropWhile fun c => c ≠ '/' && local? c).takeWhile local? with
      | [] => ['/']
      | p => p
    | _ => cs.takeWhile local?

end GeneralApplications.Http

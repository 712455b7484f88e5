import GeneralApplications.Platform.Client
import GeneralApplications.Proofs.Json.Reading

/-!
# Requests to the platform

One step of a case update over HTTP sends its request, if that can be formed, and makes of the reply
what `Http.Reply.read` says: an answer with success that can be decoded gives a value
(`Http.Reply.Gives`), every other reply a failure of a certain kind (`Http.Reply.FailsWith`).
-/

namespace GeneralApplications

open Http (Outgoing Exchange Reply Script TransportError Payload)
open Json (Codec Document)

variable {α β : Type}

/-! ## Replies -/

namespace Http.Reply

/-- What comes of a reply to a request for a URL. -/
def read (c : Codec Document α) (url : Http.Url) : Reply → Except Failure α
  | .unreachable => .error (.ofTransport (.unreachable url))
  | .dropped => .error (.ofTransport (.dropped url))
  | .answered status body => readAnswer c status body

/-- The reply is an answer with success whose body decodes as a value. -/
def Gives (c : Codec Document α) (reply : Reply) (a : α) : Prop :=
  ∃ status text, reply = .answered status (some text) ∧ Http.isSuccess status = true ∧
    Json.readText c.decode text = .ok a

/-- The ways in which a reply gives no value, and the failure that each of them is. -/
inductive FailsWith (c : Codec Document α) : Reply → Failure → Prop
  /-- There is no answer. -/
  | unanswered {reply : Reply} {failure : Failure} (h : reply = .unreachable ∨ reply = .dropped)
      (hkind : failure.kind = .platformFailure) : FailsWith c reply failure
  /-- The answer is not a success: its status decides the kind, and its body is the cause. -/
  | refused {status : Nat} {body : Option String} {failure : Failure}
      (h : Http.isSuccess status = false)
      (hkind : failure.kind = if status = 401 then .unauthorized
        else if status = 403 then .forbidden
        else if status = 404 then .notFound
        else .platformFailure)
      (hcause : failure.cause = some (body.getD "")) :
      FailsWith c (.answered status body) failure
  /-- The body of a success breaks off. -/
  | truncated {status : Nat} {failure : Failure} (h : Http.isSuccess status = true)
      (hkind : failure.kind = .platformFailure) : FailsWith c (.answered status none) failure
  /-- The body of a success does not decode. -/
  | undecodable {status : Nat} {text : String} {failure : Failure} {r : Json.Rejection}
      (h : Http.isSuccess status = true) (hread : Json.readText c.decode text = .error r)
      (hkind : failure.kind = .platformFailure) :
      FailsWith c (.answered status (some text)) failure

variable {c : Codec Document α} {url : Http.Url} {reply : Reply}

theorem read_eq_ok_iff {a : α} : reply.read c url = .ok a ↔ reply.Gives c a := by
  constructor
  · intro h
    cases reply with
    | unreachable => cases h
    | dropped => cases h
    | answered status body =>
      simp only [read, readAnswer] at h
      split at h
      next hs =>
        cases body with
        | none => cases h
        | some text =>
          simp only at h
          split at h
          next a' hread =>
            obtain rfl := Except.ok.inj h
            exact ⟨status, text, rfl, hs, hread⟩
          next => cases h
      next => cases h
  · rintro ⟨status, text, rfl, hs, hread⟩
    simp only [read, readAnswer, hs, hread, if_true]

theorem failsWith_of_read {failure : Failure} (h : reply.read c url = .error failure) :
    reply.FailsWith c failure := by
  cases reply with
  | unreachable =>
    obtain rfl := Except.error.inj h
    exact .unanswered (.inl rfl) rfl
  | dropped =>
    obtain rfl := Except.error.inj h
    exact .unanswered (.inr rfl) rfl
  | answered status body =>
    simp only [read, readAnswer] at h
    split at h
    next hs =>
      cases body with
      | none =>
        obtain rfl := Except.error.inj h
        exact .truncated hs rfl
      | some text =>
        simp only at h
        split at h
        next => cases h
        next r hread =>
          obtain rfl := Except.error.inj h
          exact .undecodable hs hread rfl
    next hs =>
      obtain rfl := Except.error.inj h
      exact .refused (by simpa using hs) rfl rfl

end Http.Reply

/-! ## Scripts -/

namespace Http.Script

/-- The requests received before make no difference to those received after them. -/
theorem interpret_answer (m : Exchange α) (replies : List Reply) (received : List Outgoing) :
    m.interpret answer ⟨replies, received⟩ =
      ((m.interpret answer ⟨replies, []⟩).1, ⟨(m.interpret answer ⟨replies, []⟩).2.replies,
        (m.interpret answer ⟨replies, []⟩).2.received ++ received⟩) := by
  induction m generalizing replies received with
  | done a => rfl
  | ask r next ih =>
    have hask (received : List Outgoing) :
        (Dialogue.ask r next : Exchange α).interpret answer ⟨replies, received⟩ =
          (next (replies.headD unscripted)).interpret answer ⟨replies.tail, r :: received⟩ := by
      cases replies <;> rfl
    rw [hask, hask, ih _ _ (r :: received), ih _ _ [r]]
    simp

theorem run_done (replies : List Reply) (a : α) : run replies (.done a) = (a, []) := rfl

/-- A computation that begins with a request. -/
theorem run_ask (replies : List Reply) (r : Outgoing) (next : Reply → Exchange α) :
    run replies (.ask r next) =
      ((run replies.tail (next (replies.headD unscripted))).1,
        r :: (run replies.tail (next (replies.headD unscripted))).2) := by
  have hask : (Dialogue.ask r next : Exchange α).interpret answer ⟨replies, []⟩ =
      (next (replies.headD unscripted)).interpret answer ⟨replies.tail, [r]⟩ := by
    cases replies <;> rfl
  simp only [run]
  rw [hask, interpret_answer]
  exact Prod.ext rfl (List.reverse_append ..)

end Http.Script

/-! ## Calls -/

namespace PlatformSettings

/-- The request for starting an event on a case. -/
def startRequest (s : PlatformSettings) (case : CaseReference) (event : CaseEvent) :
    Except TransportError Outgoing :=
  Outgoing.ofParts "GET"
    (s.baseUrl ++ ("/cases/" ++ case.text ++ "/event-triggers/" ++ event.name)) s.headers none

/-- The request for completing a started event on a case. -/
def submitRequest (s : PlatformSettings) (case : CaseReference) (content : EventSubmission) :
    Except TransportError Outgoing :=
  Outgoing.ofParts "POST" (s.baseUrl ++ ("/cases/" ++ case.text ++ "/events"))
    (s.headers ++ [("content-type", "application/json")])
    (some (.json ((EventSubmission.codec : Codec Json EventSubmission).encode content)))

/-- A call whose request cannot be formed asks nothing; otherwise it sends the request and reads the
reply. -/
def exchange (c : Codec Document α) : Except TransportError Outgoing → Exchange (Except Failure α)
  | .error e => .done (.error (.ofTransport e))
  | .ok request => .ask request fun reply => .done (reply.read c request.url)

/-- A call whose request can be formed sends it first. -/
theorem run_exchange_ok {c : Codec Document α} (replies : List Reply) (request : Outgoing)
    (next : Except Failure α → Exchange β) :
    Script.run replies ((exchange c (.ok request)).bind next) =
      let run := Script.run replies.tail
        (next ((replies.headD Script.unscripted).read c request.url))
      (run.1, request :: run.2) :=
  Script.run_ask ..

theorem run_call (s : PlatformSettings) (c : Codec Document α) (method path : String)
    (payload : Option Json) :
    (s.call c method path payload).run =
      exchange c (Outgoing.ofParts method (s.baseUrl ++ path)
        (s.headers ++ if payload.isSome then [("content-type", "application/json")] else [])
        (payload.map Payload.json)) := by
  simp only [call, ExceptT.run_mk]
  cases Outgoing.ofParts method (s.baseUrl ++ path) _ (payload.map Payload.json) with
  | error e => rfl
  | ok request =>
    refine congrArg (Dialogue.ask request) (funext fun reply => ?_)
    cases reply <;> rfl

theorem run_start (s : PlatformSettings) (case : CaseReference) (event : CaseEvent) :
    (s.start case event).run = exchange StartedEvent.codec (s.startRequest case event) := by
  refine (s.run_call ..).trans ?_
  simp only [startRequest, Option.isSome_none, Bool.false_eq_true, if_false, List.append_nil,
    Option.map_none]

theorem run_submit (s : PlatformSettings) (case : CaseReference) (content : EventSubmission) :
    (s.submit case content).run = exchange CaseSnapshot.codec (s.submitRequest case content) :=
  s.run_call ..

end PlatformSettings

end GeneralApplications

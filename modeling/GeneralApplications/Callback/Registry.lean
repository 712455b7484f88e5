import GeneralApplications.Callback.Message
import GeneralApplications.Case.Conversion
import GeneralApplications.Errand

/-!
# The callback registry

Which handler answers the callbacks of which event. An event has at most one handler; a handler
that claims an event already taken is refused as a whole. `dispatch` finds the handler by the name
of the event and gives it the record of the case.
-/

namespace GeneralApplications

/-- What a handler is given for one callback. -/
structure Callback where
  stage : CallbackStage
  request : CallbackRequest
  /-- The record of the request's snapshot. -/
  record : CaseRecord

/-- The case data exactly as it was sent. -/
def Callback.data (c : Callback) : Json.Object :=
  c.request.snapshot.data

/-- A handler: the events whose callbacks it answers, and how. -/
structure CallbackHandler where
  events : List CaseEvent
  handle : Callback → Procedure CallbackResponse

/-- A handler was refused because an event of its has one already. -/
structure DuplicateHandler where
  event : CaseEvent
  deriving DecidableEq, Repr

/-- The wording of the refusal. -/
def DuplicateHandler.message (d : DuplicateHandler) : String :=
  "Event " ++ d.event.name ++ " already has a callback handler"

/-- The handler of each event that has one. -/
structure CallbackRegistry where
  handler? : CaseEvent → Option CallbackHandler

namespace CallbackRegistry

/-- No handlers. -/
def empty : CallbackRegistry :=
  ⟨fun _ => none⟩

/-- The event has a handler. -/
def handles (r : CallbackRegistry) (e : CaseEvent) : Bool :=
  (r.handler? e).isSome

/-- The registry with a further handler for all of its events. -/
def register (r : CallbackRegistry) (h : CallbackHandler) :
    Except DuplicateHandler CallbackRegistry :=
  match h.events.find? r.handles with
  | some taken => .error ⟨taken⟩
  | none => .ok ⟨fun e => if e ∈ h.events then some h else r.handler? e⟩

/-- The handler for the event with a name. -/
def handlerFor? (r : CallbackRegistry) (eventId : String) : Option CallbackHandler :=
  (CaseEvent.ofName? eventId).bind r.handler?

/-- The events that have a handler, in declaration order. -/
def events (r : CallbackRegistry) : List CaseEvent :=
  CaseEvent.all.filter r.handles

/-- Answers a callback: first the handler is looked up, then the case data is read. -/
def dispatch (r : CallbackRegistry) (stage : CallbackStage) (request : CallbackRequest) :
    Procedure CallbackResponse := do
  let handler ← Procedure.require (r.handlerFor? request.eventId)
    (.of .notFound ("No callback handler registered for event " ++ request.eventId))
  let record ← request.snapshot.toRecord
  handler.handle ⟨stage, request, record⟩

/-! ## Laws -/

@[simp] theorem handles_iff {r : CallbackRegistry} {e : CaseEvent} :
    r.handles e = true ↔ ∃ h, r.handler? e = some h :=
  Option.isSome_iff_exists

theorem mem_events_iff {r : CallbackRegistry} {e : CaseEvent} :
    e ∈ r.events ↔ r.handles e = true := by
  simp [events, CaseEvent.mem_all]

/-- A refused handler is refused for its first event that has a handler. -/
theorem register_eq_error_iff {r : CallbackRegistry} {h : CallbackHandler} {d : DuplicateHandler} :
    r.register h = .error d ↔ h.events.find? r.handles = some d.event := by
  unfold register
  cases hf : h.events.find? r.handles with
  | none => simp
  | some e => cases d; simp [DuplicateHandler.mk.injEq]

/-- An accepted handler is found for its events, and every other event keeps its handler. -/
theorem handler?_of_register {r s : CallbackRegistry} {h : CallbackHandler}
    (hr : r.register h = .ok s) (e : CaseEvent) :
    s.handler? e = if e ∈ h.events then some h else r.handler? e := by
  unfold register at hr
  split at hr
  · cases hr
  · cases hr; rfl

end CallbackRegistry

end GeneralApplications

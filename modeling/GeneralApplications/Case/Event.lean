import GeneralApplications.Json.Codec

/-!
# Case events

The events of the case-data platform that this service knows, and the description of an event that
is submitted with case data.
-/

namespace GeneralApplications

open Json (Codec Layout)

/-- An event known to this service. -/
inductive CaseEvent where
  /-- A judge has decided; the respondents must be told. -/
  | startRespondentNotification
  /-- A child application's state is recorded on its parent case. -/
  | updateParentState
  /-- A judge makes a decision on an application. -/
  | makeDecision
  /-- The judge's business process on the application ends. -/
  | endJudgeProcess
  deriving DecidableEq, Repr

namespace CaseEvent

/-- Every event, in declaration order. -/
def all : List CaseEvent :=
  [startRespondentNotification, updateParentState, makeDecision, endJudgeProcess]

/-- The platform's identifier of an event. -/
def name : CaseEvent → String
  | startRespondentNotification => "START_RESPONDENT_NOTIFICATION_PROCESS_MAKE_DECISION"
  | updateParentState => "UPDATE_CASE_WITH_GA_STATE"
  | makeDecision => "MAKE_DECISION"
  | endJudgeProcess => "END_JUDGE_BUSINESS_PROCESS_GASPEC"

/-- The event with an identifier. -/
def ofName? (s : String) : Option CaseEvent :=
  all.find? (·.name = s)

/-- What the platform's history says about an event. -/
def summary : CaseEvent → String
  | startRespondentNotification => "Notify respondents of judicial decision"
  | updateParentState => "Update general application state"
  | makeDecision => "Make decision"
  | endJudgeProcess => "End judge business process"

/-- The place of an event among all. -/
def position (e : CaseEvent) : Nat :=
  all.idxOf e

theorem mem_all (e : CaseEvent) : e ∈ all := by
  cases e <;> simp [all]

theorem name_injective {a b : CaseEvent} (h : a.name = b.name) : a = b := by
  cases a <;> cases b <;> first | rfl | exact absurd h (by decide)

theorem ofName?_eq_some_iff {s : String} {e : CaseEvent} : ofName? s = some e ↔ e.name = s := by
  constructor
  · intro h
    simpa using List.find?_some h
  · rintro rfl
    cases e <;> decide

/-- The wire form of an event. -/
def codec {τ : Type} [Json.Readable τ] : Codec τ CaseEvent :=
  .named all name

end CaseEvent

/-- The description of an event. -/
structure EventDescription where
  id : CaseEvent
  summary : Option String
  description : Option String
  deriving DecidableEq, Repr

namespace EventDescription

/-- The description under which this service submits an event. -/
def ofEvent (e : CaseEvent) : EventDescription :=
  ⟨e, some e.summary, none⟩

/-- The wire form of a description. -/
def codec {τ : Type} [Json.Readable τ] : Codec τ EventDescription :=
  .record "EventDescriptor" <| EventDescription.mk
    <$> Layout.required "id" (·.id) CaseEvent.codec
    <*> Layout.optional "summary" (·.summary) .string
    <*> Layout.optional "description" (·.description) .string

end EventDescription

end GeneralApplications

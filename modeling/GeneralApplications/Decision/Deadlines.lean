import GeneralApplications.Case.Record

/-!
# Deadlines of a decision

What the judge's form is told about the dates of a decision. A finding is a message for the form,
not a failure. Only the deadline that belongs to the chosen decision is looked at, and a deadline
that falls on the day itself is in time.
-/

namespace GeneralApplications

/-- What can be wrong with the deadline of a decision. -/
inductive DeadlineFinding where
  | representationsInPast
  | responseMissing
  | responseInPast
  deriving DecidableEq, Repr

/-- The wording of a finding. -/
def DeadlineFinding.message : DeadlineFinding → String
  | representationsInPast => "The written representations date cannot be in the past."
  | responseMissing => "The date, by which the applicant must respond, is required."
  | responseInPast => "The date, by which the applicant must respond, cannot be in past."

/-- An order for written representations may leave its deadline open. -/
def WrittenRepresentations.findings (d : WrittenRepresentations) (today : Date) :
    List DeadlineFinding :=
  match d.deadline with
  | some date => if date < today then [.representationsInPast] else []
  | none => []

/-- A request for more information from the applicant needs a deadline; sending the application to
the other party needs none. -/
def InformationRequest.findings (r : InformationRequest) (today : Date) : List DeadlineFinding :=
  match r.action, r.deadline with
  | .sendToOtherParty, _ => []
  | .requestMoreInformation, none => [.responseMissing]
  | .requestMoreInformation, some date => if date < today then [.responseInPast] else []

/-- The findings for the decision that the judge picked. -/
def CaseRecord.deadlineFindings (c : CaseRecord) (today : Date) : List DeadlineFinding :=
  match c.decision with
  | none => []
  | some d =>
    match d.ruling with
    | .makeOrderForWrittenRepresentations => c.writtenRepresentations.elim [] (·.findings today)
    | .requestMoreInfo => c.informationRequest.elim [] (·.findings today)
    | .makeAnOrder | .listForAHearing => []

end GeneralApplications

import GeneralApplications.Case.Snapshot
import GeneralApplications.Dialogue
import GeneralApplications.Failure

/-!
# Errands

What this service asks of others while it handles a callback: to start and to submit an event on
the case-data platform, and to notify the respondents of a case. A `Procedure` runs errands and
may fail.
-/

namespace GeneralApplications

/-- Something to be done by a collaborator. -/
inductive Errand where
  /-- Starts an event on a case of the platform. -/
  | start (case : CaseReference) (event : CaseEvent)
  /-- Completes a started event on a case. -/
  | submit (case : CaseReference) (content : EventSubmission)
  /-- Tells the respondents of an application about its decision. -/
  | notify (record : CaseRecord)
  deriving DecidableEq, Repr

/-- What comes of an errand. A sender that fails gives its own error text. -/
abbrev Errand.Outcome : Errand → Type
  | start _ _ => Except Failure StartedEvent
  | submit _ _ => Except Failure CaseSnapshot
  | notify _ => Except String Unit

/-- A computation that runs errands. -/
abbrev Errands : Type → Type :=
  Dialogue Errand Errand.Outcome

/-- A computation that runs errands and may fail. -/
abbrev Procedure : Type → Type :=
  ExceptT Failure Errands

/-- Runs one errand. -/
def Errand.run (e : Errand) : Errands e.Outcome :=
  Dialogue.question e

namespace Procedure

/-- Starts an event; the platform's failure is passed on. -/
def start (case : CaseReference) (event : CaseEvent) : Procedure StartedEvent :=
  .mk (Errand.start case event).run

/-- Completes a started event; the platform's failure is passed on. -/
def submit (case : CaseReference) (content : EventSubmission) : Procedure CaseSnapshot :=
  .mk (Errand.submit case content).run

/-- Notifies the respondents; the sender's error becomes the cause of a failure. -/
def notify (record : CaseRecord) : Procedure Unit :=
  .mk do
    match ← (Errand.notify record).run with
    | .ok () => return .ok ()
    | .error e => return .error (.notification e)

/-- A result that may be missing. -/
def require {α : Type} (a : Option α) (otherwise : Failure) : Procedure α :=
  match a with
  | some a => pure a
  | none => throw otherwise

end Procedure

end GeneralApplications

import GeneralApplications.Callback.Registry
import GeneralApplications.Decision.Deadlines
import GeneralApplications.ParentUpdate

/-!
# The callback handlers

The three handlers of this service. None of them alters the case data: an answer either echoes the
data as it was sent or leaves it out.
-/

namespace GeneralApplications

namespace CallbackHandler

/-- Notifies the respondents once a judge has decided. A notification that fails makes the callback
fail, so that the platform does not take the step as done. -/
def respondentNotification : CallbackHandler where
  events := [.startRespondentNotification]
  handle c :=
    match c.stage with
    | .aboutToSubmit => do
      Procedure.notify c.record
      return .withData c.data
    | .aboutToStart | .mid | .submitted => return .empty

/-- Checks the deadlines on the judge's decision page before it can be submitted. -/
def decisionPage (today : Date) : CallbackHandler where
  events := [.makeDecision]
  handle c :=
    match c.stage with
    | .mid => return .withErrors c.data ((c.record.deadlineFindings today).map (·.message))
    | .aboutToSubmit => return .withData c.data
    | .aboutToStart | .submitted => return .empty

/-- Records the application's state on its parent case when the judge's business process ends. -/
def endOfProcess : CallbackHandler where
  events := [.endJudgeProcess]
  handle c :=
    match c.stage with
    | .aboutToSubmit => do
      let state ← Procedure.require c.request.snapshot.state
        (.of .badRequest "Application has no state to propagate")
      c.record.updateParent state
      return .withData c.data
    | .aboutToStart | .mid | .submitted => return .empty

/-- Every handler of this service. -/
def all (today : Date) : List CallbackHandler :=
  [respondentNotification, decisionPage today, endOfProcess]

end CallbackHandler

/-- The registry of this service. -/
def CallbackRegistry.standard (today : Date) : CallbackRegistry :=
  ⟨fun e => (CallbackHandler.all today).find? fun h => h.events.contains e⟩

/-- Registering the handlers one after another gives the registry of this service: no two of them
claim the same event. -/
theorem CallbackRegistry.register_all (today : Date) :
    (CallbackHandler.all today).foldlM register empty = .ok (standard today) := by
  have step : (CallbackHandler.all today).foldlM register empty = .ok ⟨fun e =>
      if e ∈ CallbackHandler.endOfProcess.events then some .endOfProcess
      else if e ∈ (CallbackHandler.decisionPage today).events then some (.decisionPage today)
      else if e ∈ CallbackHandler.respondentNotification.events then some .respondentNotification
      else none⟩ := rfl
  rw [step]
  congr 2
  funext e
  cases e <;> rfl

end GeneralApplications

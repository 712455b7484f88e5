import GeneralApplications.Case.ApplicationState
import GeneralApplications.Case.Conversion
import GeneralApplications.Errand

/-!
# Updating the parent case

The new state of an application is recorded on its parent case in two steps: the update event is
started there, and the parent's data is submitted with the state set. A failure of either step is
returned as it is and nothing is tried again; an event that was started and not submitted expires
on the platform.
-/

namespace GeneralApplications

/-- The submission of a parent's record under a started event. -/
def StartedEvent.submission (started : StartedEvent) (event : CaseEvent) (parent : CaseRecord) :
    EventSubmission where
  token := started.token
  event := .ofEvent event
  data := parent.toData
  ignoreWarning := false

/-- Records an application's new state on its parent case. -/
def CaseRecord.updateParent (child : CaseRecord) (state : String) : Procedure Unit := do
  let childReference ← Procedure.require child.reference
    (.of .badRequest "Application has no case reference")
  let parentReference ← Procedure.require child.parent
    (.of .badRequest "Application is not linked to a parent case")
  let started ← Procedure.start parentReference .updateParentState
  let parent ← started.snapshot.toRecord
  let parent := parent.withApplicationState childReference state child.isUncloaked
  discard <| Procedure.submit parentReference (started.submission .updateParentState parent)

end GeneralApplications

import GeneralApplications.ParentUpdate

/-!
# The two steps of an update

`CaseSnapshot.recording` is what an update makes of the parent's data. An update of an application
that has a reference and a parent starts an event there and, if the parent that comes with the
answer can be read, submits the recording once, with the token of that answer and on the same case
(`CaseRecord.run_updateParent`).
-/

namespace GeneralApplications

open Json (Object)

/-- The parent's data with an application's new state recorded in it. -/
def CaseSnapshot.recording (s : CaseSnapshot) (child : CaseReference) (state : String)
    (uncloaked : Bool) : Except Failure Object := do
  let parent ← s.toRecord
  return (parent.withApplicationState child state uncloaked).toData

theorem CaseSnapshot.recording_eq_ok_iff {s : CaseSnapshot} {child : CaseReference}
    {state : String} {uncloaked : Bool} {data : Object} :
    s.recording child state uncloaked = .ok data ↔
      ∃ parent, s.toRecord = .ok parent ∧
        (parent.withApplicationState child state uncloaked).toData = data := by
  unfold recording
  cases s.toRecord <;> simp [bind, Except.bind, pure, Except.pure]

/-- The submission that completes an update. -/
def StartedEvent.update (started : StartedEvent) (data : Object) : EventSubmission where
  token := started.token
  event := .ofEvent .updateParentState
  data := data
  ignoreWarning := false

namespace CaseRecord
variable {child : CaseRecord} {state : String} {c r : CaseReference}

/-- What is left of an update of `c`, on the parent case `r`, once the started event has been
answered. -/
def finishUpdate (child : CaseRecord) (state : String) (c r : CaseReference) :
    Except Failure StartedEvent → Errands (Except Failure Unit)
  | .error failure => .done (.error failure)
  | .ok started =>
    match started.snapshot.recording c state child.isUncloaked with
    | .error failure => .done (.error failure)
    | .ok data => .ask (.submit r (started.update data)) fun outcome =>
      .done (outcome.map fun _ => ())

/-- An update of an application that has a reference and a parent. -/
theorem run_updateParent (hc : child.reference = some c) (hr : child.parent = some r) :
    (child.updateParent state).run =
      .ask (.start r .updateParentState) (child.finishUpdate state c r) := by
  simp only [updateParent, hc, hr, Procedure.require, pure_bind]
  refine congrArg (Dialogue.ask _) (funext fun outcome => ?_)
  cases outcome with
  | error failure => rfl
  | ok started =>
    simp only [Dialogue.done_bind, ExceptT.bindCont, finishUpdate, CaseSnapshot.recording]
    cases started.snapshot.toRecord with
    | error failure => rfl
    | ok parent =>
      refine congrArg (Dialogue.ask _) (funext fun outcome => ?_)
      cases outcome with
      | error failure => rfl
      | ok snapshot => rfl

/-- An update of an application without a reference or without a parent asks nothing, and is a bad
request. -/
theorem run_updateParent_of_unlinked (child : CaseRecord) (state : String)
    (h : child.reference = none ∨ child.parent = none) :
    ∃ failure, (child.updateParent state).run = .done (.error failure) ∧
      failure.kind = .badRequest := by
  cases hc : child.reference with
  | none =>
    simp only [updateParent, hc, Procedure.require]
    exact ⟨_, rfl, rfl⟩
  | some c =>
    have hr : child.parent = none := by simpa [hc] using h
    simp only [updateParent, hc, hr, Procedure.require]
    exact ⟨_, rfl, rfl⟩

end CaseRecord

end GeneralApplications

import GeneralApplications.Callback.Handlers
import GeneralApplications.Http.Service
import GeneralApplications.Proofs.Case.Conversion
import GeneralApplications.Proofs.Update.Procedure

/-!
# What a request makes the service ask

A request to this service is answered without any errand, or it is one of two callbacks at the
stage about to submit: the one that notifies the respondents, or the one that updates the parent
case (`Reaction`). Nothing else is ever asked, whatever the request (`reaction_respond`).
-/

namespace GeneralApplications

open Http

/-! ## Callbacks -/

/-- The callback that a request is, with the segment for its stage, if it can be read. -/
def Http.Request.callback? (r : Request) : Option (String × CallbackRequest) :=
  match Route.ofPath (path r.target) with
  | .callback segment =>
    if r.method = "POST" then (readCallback segment r).toOption else none
  | .health | .documentation | .unknown => none

/-- The request is a callback of an event at a stage. -/
structure Http.Request.IsCallback (r : Request) (stage : CallbackStage) (event : CaseEvent)
    (m : CallbackRequest) : Prop where
  read : r.callback? = some (stage.name, m)
  event : m.eventId = event.name

/-- The message asks for an update of a parent case: it has a state to set, and its data links to
the parent. -/
structure CallbackRequest.AsksUpdate (m : CallbackRequest) (child : CaseRecord) (state : String)
    (parent : CaseReference) : Prop where
  record : m.snapshot.toRecord = .ok child
  state : m.snapshot.state = some state
  parent : child.parent = some parent

/-- The answer to a callback that was to notify the respondents. -/
def afterNotify (m : CallbackRequest) (outcome : Except String Unit) : Response :=
  match outcome with
  | .ok () => ofOutcome (.ok (.withData m.snapshot.data))
  | .error e => ofOutcome (.error (.notification e))

/-- The answer to a callback that was to update the parent case. -/
def afterUpdate (m : CallbackRequest) (outcome : Except Failure Unit) : Response :=
  ofOutcome (outcome.map fun _ => .withData m.snapshot.data)

/-! ## Handlers -/

/-- A procedure whose result is replaced. -/
theorem run_bind_pure {α β : Type} (x : Procedure α) (b : β) :
    (x >>= fun _ => pure b).run = Except.map (fun _ => b) <$> x.run := by
  rw [bind_pure_comp, ExceptT.run_map]

section
variable {c : Callback}

theorem run_respondentNotification (h : c.stage = .aboutToSubmit) :
    ofOutcome <$> (CallbackHandler.respondentNotification.handle c).run =
      .ask (.notify c.record) fun outcome => .done (afterNotify c.request outcome) := by
  simp only [CallbackHandler.respondentNotification, h]
  refine congrArg (Dialogue.ask _) (funext fun outcome => ?_)
  cases outcome <;> rfl

/-- Without a state or a parent nothing is asked, else the parent is updated. -/
theorem run_endOfProcess_cases (h : c.stage = .aboutToSubmit)
    (href : c.record.reference = some c.request.snapshot.id) :
    (∃ outcome, (CallbackHandler.endOfProcess.handle c).run = .done outcome) ∨
    ∃ state parent, c.request.snapshot.state = some state ∧ c.record.parent = some parent ∧
      ofOutcome <$> (CallbackHandler.endOfProcess.handle c).run =
        .ask (.start parent .updateParentState) fun outcome =>
          afterUpdate c.request <$>
            c.record.finishUpdate state c.request.snapshot.id parent outcome := by
  simp only [CallbackHandler.endOfProcess, h]
  cases hstate : c.request.snapshot.state with
  | none => exact .inl ⟨_, rfl⟩
  | some state =>
    simp only [Procedure.require, pure_bind]
    cases hparent : c.record.parent with
    | none =>
      obtain ⟨failure, hf, _⟩ := c.record.run_updateParent_of_unlinked state (.inr hparent)
      refine .inl ⟨.error failure, ?_⟩
      rw [run_bind_pure, hf]
      rfl
    | some parent =>
      refine .inr ⟨state, parent, rfl, rfl, ?_⟩
      rw [run_bind_pure, CaseRecord.run_updateParent href hparent, ← comp_map]
      rfl

end

/-- What the service does about a request. -/
inductive Http.Request.Reaction (r : Request) : Errands Response → Prop
  /-- It answers. -/
  | answers (answer : Response) : Reaction r (.done answer)
  /-- It notifies the respondents and answers. -/
  | notifies {m : CallbackRequest} {record : CaseRecord}
      (hm : r.IsCallback .aboutToSubmit .startRespondentNotification m) :
      Reaction r (.ask (.notify record) fun outcome => .done (afterNotify m outcome))
  /-- It starts an update of the parent case, finishes it if it can, and answers. -/
  | updates {m : CallbackRequest} {child : CaseRecord} {state : String} {parent : CaseReference}
      (hm : r.IsCallback .aboutToSubmit .endJudgeProcess m) (h : m.AsksUpdate child state parent) :
      Reaction r (.ask (.start parent .updateParentState) fun outcome =>
        afterUpdate m <$> child.finishUpdate state m.snapshot.id parent outcome)

/-- A callback either fails at once or is handled by the handler of its event. -/
theorem run_callback_cases (today : Date) (segment : String) (m : CallbackRequest) :
    (∃ failure, (callback (.standard today) segment m).run = .done (.error failure)) ∨
    ∃ (event : CaseEvent) (stage : CallbackStage) (record : CaseRecord) (h : CallbackHandler),
      m.eventId = event.name ∧ segment = stage.name ∧ m.snapshot.toRecord = .ok record ∧
      (CallbackRegistry.standard today).handler? event = some h ∧
      (callback (.standard today) segment m).run = (h.handle ⟨stage, m, record⟩).run := by
  simp only [callback]
  cases hstage : CallbackStage.ofName? segment with
  | none => exact .inl ⟨_, rfl⟩
  | some stage =>
    simp only [Procedure.require, pure_bind, CallbackRegistry.dispatch]
    cases hhandler : (CallbackRegistry.standard today).handlerFor? m.eventId with
    | none => exact .inl ⟨_, rfl⟩
    | some h =>
      cases hrecord : m.snapshot.toRecord with
      | error failure => exact .inl ⟨failure, rfl⟩
      | ok record =>
        obtain ⟨event, hevent, hh⟩ := Option.bind_eq_some_iff.1 hhandler
        exact .inr ⟨event, stage, record, h, (CaseEvent.ofName?_eq_some_iff.1 hevent).symm,
          (CallbackStage.ofName?_eq_some_iff.1 hstage).symm, rfl, hh, rfl⟩

theorem reaction_callback (today : Date) {r : Request} {segment : String} {m : CallbackRequest}
    (hread : r.callback? = some (segment, m)) :
    r.Reaction (ofOutcome <$> (callback (.standard today) segment m).run) := by
  rcases run_callback_cases today segment m with
    ⟨failure, hrun⟩ | ⟨event, stage, record, h, hevent, rfl, hrecord, hh, hrun⟩
  · rw [hrun]
    exact .answers _
  · rw [hrun]
    cases event with
    | startRespondentNotification =>
      cases hh
      cases stage with
      | aboutToSubmit =>
        rw [run_respondentNotification rfl]
        exact .notifies ⟨hread, hevent⟩
      | aboutToStart => exact .answers _
      | mid => exact .answers _
      | submitted => exact .answers _
    | updateParentState => cases hh
    | makeDecision =>
      cases hh
      cases stage <;> exact .answers _
    | endJudgeProcess =>
      cases hh
      cases stage with
      | aboutToSubmit =>
        rcases run_endOfProcess_cases (c := ⟨.aboutToSubmit, m, record⟩) rfl
          (CaseSnapshot.reference_of_toRecord hrecord) with
          ⟨outcome, hf⟩ | ⟨state, parent, hstate, hparent, hf⟩
        · rw [hf]
          exact .answers _
        · rw [hf]
          exact .updates ⟨hread, hevent⟩ ⟨hrecord, hstate, hparent⟩
      | aboutToStart => exact .answers _
      | mid => exact .answers _
      | submitted => exact .answers _

/-- Whatever the request, the service reacts in one of these ways. -/
theorem reaction_respond (today : Date) (r : Request) :
    r.Reaction (respond (.standard today) r) := by
  unfold respond
  cases hroute : Route.ofPath (path r.target) with
  | unknown => exact .answers _
  | health => exact .answers _
  | documentation => exact .answers _
  | callback segment =>
    by_cases hmethod : r.method = "POST"
    · cases hread : readCallback segment r with
      | error answer =>
        simp only [hmethod, hread, ne_eq, not_true_eq_false, if_false]
        exact .answers _
      | ok read =>
        obtain ⟨name, m⟩ := read
        have hcallback : r.callback? = some (name, m) := by
          simp [Http.Request.callback?, hroute, hmethod, hread, Except.toOption]
        simp only [hmethod, hread, ne_eq, not_true_eq_false, if_false, bind_pure_comp]
        exact reaction_callback today hcallback
    · simp only [hmethod, ne_eq, not_false_eq_true, if_true]
      exact .answers _

end GeneralApplications

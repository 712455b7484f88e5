import GeneralApplications.Proofs.Case.Rewriting
import GeneralApplications.Proofs.Service.Callback
import GeneralApplications.Proofs.Service.Collaborators
import GeneralApplications.Proofs.Wire.Stability

/-!
# The order of checks

Seven things can keep a callback from its handler (`Http.Obstacle`), and several of them at once.
They come from different layers, and yet one order decides: the answer is that of the first one, and
no collaborator is called (`respond_in_order`). Without any of them the callback comes to the
handler of its event (`Http.Request.Reaches`), whose result is the answer.

The conditions of the obstacles are independent of each other. `respond_cases` follows the service
through its layers once; everything else is read from it.
-/

namespace GeneralApplications

open Http
open Json (Codec Document)

/-! ## Answers -/

/-- The body of the answer decodes as a value. -/
def Http.Response.Holds {α : Type} (c : Codec Json α) (answer : Response) (a : α) : Prop :=
  ∃ j, answer.content = .json (some j) ∧ c.decode j = .ok a

/-- The answer reports a failure: its status is that of the kind, its body the failure itself. -/
structure Http.Response.Reports (answer : Response) (f : Failure) : Prop where
  status : answer.status = f.kind.status
  body : answer.Holds Failure.codec f

theorem reports_ofFailure (f : Failure) : (ofFailure f).Reports f :=
  ⟨rfl, _, rfl, f.roundTrips.2⟩

/-- The answer gives the outcome of a callback: a response with success, or the failure. -/
def Http.Response.Gives (answer : Response) : Except Failure CallbackResponse → Prop
  | .ok r => answer.status = 200 ∧ answer.Holds CallbackResponse.codec r
  | .error f => answer.Reports f

theorem gives_ofOutcome (outcome : Except Failure CallbackResponse) :
    (ofOutcome outcome).Gives outcome := by
  cases outcome with
  | ok r => exact ⟨rfl, _, rfl, r.roundTrips.2⟩
  | error f => exact reports_ofFailure f

/-! ## Obstacles -/

/-- What comes of reading the body as a callback. -/
def Http.Request.reading (r : Request) : Except Json.Rejection CallbackRequest :=
  Json.readText (CallbackRequest.codec : Codec Document CallbackRequest).decode r.body

/-- The events whose callbacks are handled. -/
def handledEvents : List CaseEvent :=
  [.startRespondentNotification, .makeDecision, .endJudgeProcess]

/-- What can keep a callback from its handler. -/
inductive Http.Obstacle where
  /-- The path segment for the stage is not UTF-8. -/
  | segment
  /-- The body is not announced as JSON. -/
  | mediaType
  /-- The body is too large. -/
  | size
  /-- The body is not the JSON text of a callback. -/
  | body
  /-- The segment names no stage. -/
  | stage
  /-- The event is not handled. -/
  | event
  /-- The case data is no case record. -/
  | data
  deriving DecidableEq, Repr

namespace Http.Obstacle

/-- Every obstacle, in the order in which they count. -/
def all : List Obstacle :=
  [segment, mediaType, size, body, stage, event, data]

/-- The obstacles that count before another one. -/
def earlier (o : Obstacle) : List Obstacle :=
  all.takeWhile (· ≠ o)

theorem mem_earlier_or (a b : Obstacle) : a = b ∨ a ∈ b.earlier ∨ b ∈ a.earlier := by
  cases a <;> cases b <;> decide

/-- The obstacle is there, whatever other obstacles are. -/
def Blocks (r : Request) (written : List Char) : Obstacle → Prop
  | segment => decodePart? (String.ofList written) = none
  | mediaType => announcesJson r.contentType = false
  | size => 2097152 < r.body.utf8ByteSize
  | body => ∃ rejection, r.reading = .error rejection
  | stage => ∃ name, decodePart? (String.ofList written) = some name ∧
      ∀ t : CallbackStage, name ≠ t.name
  | event => ∃ m, r.reading = .ok m ∧ ∀ e ∈ handledEvents, m.eventId ≠ e.name
  | data => ∃ m failure, r.reading = .ok m ∧ m.snapshot.toRecord = .error failure

/-- The answer that tells of an obstacle. -/
def Answers (r : Request) (written : List Char) (answer : Response) : Obstacle → Prop
  | segment => answer = .plain 400 "Invalid URL: Invalid UTF-8 in \x60callback_type\x60"
  | mediaType => answer = .plain 415 "Expected request with \x60Content-Type: application/json\x60"
  | size => answer = .plain 413 "Failed to buffer the request body: length limit exceeded"
  | body => ∃ text, answer = .plain 400 text ∨ answer = .plain 422 text
  | stage => ∃ name, decodePart? (String.ofList written) = some name ∧
      answer.Reports ⟨.badRequest, "Invalid callback type: " ++ name, none⟩
  | event => ∃ m, r.reading = .ok m ∧ answer.Reports
      ⟨.notFound, "No callback handler registered for event " ++ m.eventId, none⟩
  | data => ∃ cause, answer.Reports
      ⟨.badRequest, "Case data does not match the expected shape", some cause⟩

/-- The obstacle is there, and none that counts before it. -/
structure IsFirst (r : Request) (written : List Char) (o : Obstacle) : Prop where
  blocks : o.Blocks r written
  earlier : ∀ b ∈ o.earlier, ¬ b.Blocks r written

theorem IsFirst.unique {r : Request} {written : List Char} {a b : Obstacle}
    (ha : a.IsFirst r written) (hb : b.IsFirst r written) : a = b := by
  rcases mem_earlier_or a b with hab | hab | hab
  · exact hab
  · exact absurd ha.blocks (hb.earlier a hab)
  · exact absurd hb.blocks (ha.earlier b hab)

end Http.Obstacle

/-! ## Reading the request -/

/-- The request can be read: its path segment as a text, and its body as a callback. -/
structure Http.Request.Reads (r : Request) (segment : List Char) (name : String)
    (m : CallbackRequest) : Prop where
  segment : decodePart? (String.ofList segment) = some name
  mediaType : announcesJson r.contentType = true
  size : r.body.utf8ByteSize ≤ 2097152
  message : r.reading = .ok m

theorem readCallback_eq (segment : List Char) (r : Request) : readCallback segment r =
    match decodePart? (String.ofList segment) with
    | none => .error (.plain 400 "Invalid URL: Invalid UTF-8 in \x60callback_type\x60")
    | some name =>
      if announcesJson r.contentType then
        if 2097152 < r.body.utf8ByteSize then
          .error (.plain 413 "Failed to buffer the request body: length limit exceeded")
        else
          match r.reading with
          | .error rejection => .error (ofRejection rejection)
          | .ok m => .ok (name, m)
      else .error (.plain 415 "Expected request with \x60Content-Type: application/json\x60") := by
  unfold readCallback Http.Request.reading
  cases decodePart? (String.ofList segment) with
  | none => rfl
  | some name =>
    cases announcesJson r.contentType with
    | false => rfl
    | true =>
      by_cases hsize : maxBody < r.body.utf8ByteSize
      · have hsize' : 2097152 < r.body.utf8ByteSize := hsize
        simp only [hsize, hsize', Bool.not_true, Bool.false_eq_true, if_false, if_true]
        rfl
      · have hsize' : ¬ 2097152 < r.body.utf8ByteSize := hsize
        simp only [hsize, hsize', Bool.not_true, Bool.false_eq_true, if_false, if_true]
        cases Json.readText (CallbackRequest.codec : Codec Document CallbackRequest).decode
          r.body <;> rfl

theorem ofRejection_eq (rejection : Json.Rejection) :
    ∃ text, ofRejection rejection = .plain 400 text ∨ ofRejection rejection = .plain 422 text := by
  unfold ofRejection
  split
  · exact ⟨_, .inl rfl⟩
  · exact ⟨_, .inr rfl⟩

namespace Http.Obstacle

/-- The first obstacle to reading a request, if there is one, is what reading it comes to. -/
theorem readCallback_cases (segment : List Char) (r : Request) :
    (∃ o : Obstacle, o.IsFirst r segment ∧ ∃ answer, o.Answers r segment answer ∧
      readCallback segment r = .error answer) ∨
    ∃ name m, r.Reads segment name m ∧ readCallback segment r = .ok (name, m) := by
  have hread := readCallback_eq segment r
  -- What a check that was passed says stays in the context, for the obstacles after it.
  cases hname : decodePart? (String.ofList segment) with
  | none =>
    rw [hname] at hread
    exact .inl ⟨.segment, ⟨hname, by simp [earlier, all]⟩, _, rfl, hread⟩
  | some name =>
    have noSegment : ¬ Blocks r segment .segment := by simp [Blocks, hname]
    rw [hname] at hread
    by_cases hmedia : announcesJson r.contentType = true
    · have noMediaType : ¬ Blocks r segment .mediaType := by simp [Blocks, hmedia]
      by_cases hsize : 2097152 < r.body.utf8ByteSize
      · simp only [hmedia, hsize, if_true] at hread
        exact .inl ⟨.size, ⟨hsize, by simp [earlier, all, noSegment, noMediaType]⟩, _, rfl, hread⟩
      · have noSize : ¬ Blocks r segment .size := hsize
        simp only [hmedia, hsize, if_true, if_false] at hread
        cases hm : r.reading with
        | error rejection =>
          rw [hm] at hread
          exact .inl ⟨.body, ⟨⟨rejection, hm⟩,
            by simp [earlier, all, noSegment, noMediaType, noSize]⟩, _, ofRejection_eq rejection,
            hread⟩
        | ok m =>
          rw [hm] at hread
          exact .inr ⟨name, m, ⟨hname, hmedia, Nat.le_of_not_lt hsize, hm⟩, hread⟩
    · simp only [hmedia] at hread
      exact .inl ⟨.mediaType, ⟨by simpa [Blocks] using hmedia,
        by simp [earlier, all, noSegment]⟩, _, rfl, hread⟩

end Http.Obstacle

/-! ## Handing the callback to a handler -/

/-- The request is a callback that comes to a handler, with a segment for its stage. -/
structure Http.Request.Reaches (today : Date) (r : Request) (segment : List Char) (c : Callback)
    (h : CallbackHandler) : Prop extends r.Reads segment c.stage.name c.request where
  record : c.request.snapshot.toRecord = .ok c.record
  handler : h ∈ CallbackHandler.all today
  event : ∃ e ∈ h.events, c.request.eventId = e.name

theorem run_callback_eq (today : Date) (segment : String) (m : CallbackRequest) :
    (callback (.standard today) segment m).run =
      match CallbackStage.ofName? segment with
      | none => .done (.error ⟨.badRequest, "Invalid callback type: " ++ segment, none⟩)
      | some stage =>
        match (CallbackRegistry.standard today).handlerFor? m.eventId with
        | none => .done (.error
            ⟨.notFound, "No callback handler registered for event " ++ m.eventId, none⟩)
        | some h =>
          match m.snapshot.toRecord with
          | .error failure => .done (.error failure)
          | .ok record => (h.handle ⟨stage, m, record⟩).run := by
  simp only [callback]
  cases CallbackStage.ofName? segment with
  | none => rfl
  | some stage =>
    simp only [Procedure.require, pure_bind, CallbackRegistry.dispatch]
    cases (CallbackRegistry.standard today).handlerFor? m.eventId with
    | none => rfl
    | some h =>
      cases m.snapshot.toRecord with
      | error failure => rfl
      | ok record => rfl

theorem CallbackRegistry.mem_of_handler? {today : Date} {e : CaseEvent} {h : CallbackHandler}
    (hfound : (standard today).handler? e = some h) :
    h ∈ CallbackHandler.all today ∧ e ∈ h.events := by
  have hfind : (CallbackHandler.all today).find? (fun h => h.events.contains e) = some h := hfound
  exact ⟨List.mem_of_find?_eq_some hfind, by simpa using List.find?_some hfind⟩

/-- An event is handled by the handler that claims it, or its name is none of a handled event. -/
theorem handlerFor?_cases (today : Date) (eventId : String) :
    ((CallbackRegistry.standard today).handlerFor? eventId = none ∧
      ∀ e ∈ handledEvents, eventId ≠ e.name) ∨
    ∃ h e, (CallbackRegistry.standard today).handlerFor? eventId = some h ∧
      h ∈ CallbackHandler.all today ∧ e ∈ h.events ∧ eventId = e.name := by
  simp only [CallbackRegistry.handlerFor?]
  cases hname : CaseEvent.ofName? eventId with
  | none =>
    refine .inl ⟨rfl, fun e _ he => ?_⟩
    rw [CaseEvent.ofName?_eq_some_iff.2 he.symm] at hname
    cases hname
  | some e =>
    have he : eventId = e.name := (CaseEvent.ofName?_eq_some_iff.1 hname).symm
    cases hfound : (CallbackRegistry.standard today).handler? e with
    | some h =>
      obtain ⟨hh, hclaims⟩ := CallbackRegistry.mem_of_handler? hfound
      exact .inr ⟨h, e, hfound, hh, hclaims, he⟩
    | none =>
      refine .inl ⟨hfound, fun e' he' hname' => ?_⟩
      obtain rfl := CaseEvent.name_injective (he.symm.trans hname')
      cases e with
      | updateParentState => simp [handledEvents] at he'
      | startRespondentNotification => cases hfound
      | makeDecision => cases hfound
      | endJudgeProcess => cases hfound

theorem CallbackHandler.mem_all_iff {today : Date} {h : CallbackHandler} :
    h ∈ all today ↔ h = respondentNotification ∨ h = decisionPage today ∨ h = endOfProcess := by
  simp [all]

/-- The event of a handler is handled. -/
theorem mem_handledEvents {today : Date} {h : CallbackHandler} {e : CaseEvent}
    (hh : h ∈ CallbackHandler.all today) (he : e ∈ h.events) : e ∈ handledEvents := by
  rcases CallbackHandler.mem_all_iff.1 hh with rfl | rfl | rfl <;>
    obtain rfl := List.mem_singleton.1 he <;> simp [handledEvents]

/-- Data that cannot be read is reported with the reader's own words as the cause. -/
theorem CaseSnapshot.exists_shape_of_toRecord {s : CaseSnapshot} {failure : Failure}
    (h : s.toRecord = .error failure) : ∃ cause, failure = .shape cause := by
  rw [toRecord] at h
  cases hdec : (CaseRecord.codec : Codec Json CaseRecord).decode s.recordObject.toJson with
  | error r =>
    rw [hdec] at h
    exact ⟨r.message, (Except.error.inj h).symm⟩
  | ok c =>
    rw [hdec] at h
    cases h

section
variable {today : Date} {r : Request} {segment : List Char}

/-- A callback that reaches its handler meets no obstacle. -/
theorem Http.Request.Reaches.not_blocks {c : Callback} {h : CallbackHandler}
    (hr : r.Reaches today segment c h) (o : Obstacle) : ¬ o.Blocks r segment := by
  cases o with
  | segment => simp [Obstacle.Blocks, hr.segment]
  | mediaType => simp [Obstacle.Blocks, hr.mediaType]
  | size => exact Nat.not_lt.2 hr.size
  | body => simp [Obstacle.Blocks, hr.message]
  | stage =>
    rintro ⟨name, hname, hnone⟩
    exact hnone c.stage (Option.some.inj (hname.symm.trans hr.segment))
  | event =>
    rintro ⟨m, hm, hnone⟩
    obtain rfl := Except.ok.inj (hm.symm.trans hr.message)
    obtain ⟨e, he, hname⟩ := hr.event
    exact hnone e (mem_handledEvents hr.handler he) hname
  | data =>
    rintro ⟨m, failure, hm, hfailure⟩
    obtain rfl := Except.ok.inj (hm.symm.trans hr.message)
    rw [hr.record] at hfailure
    cases hfailure

/-- The first obstacle to handling a request that can be read, if there is one, is what handling it
comes to. -/
theorem Http.Obstacle.callback_cases {name : String} {m : CallbackRequest}
    (hread : r.Reads segment name m) (today : Date) :
    (∃ o : Obstacle, o.IsFirst r segment ∧ ∃ failure, o.Answers r segment (ofFailure failure) ∧
      (callback (.standard today) name m).run = .done (.error failure)) ∨
    ∃ c h, r.Reaches today segment c h ∧
      (callback (.standard today) name m).run = (h.handle c).run := by
  have hrun := run_callback_eq today name m
  have noSegment : ¬ Blocks r segment .segment := by simp [Blocks, hread.segment]
  have noMediaType : ¬ Blocks r segment .mediaType := by simp [Blocks, hread.mediaType]
  have noSize : ¬ Blocks r segment .size := Nat.not_lt.2 hread.size
  have noBody : ¬ Blocks r segment .body := by simp [Blocks, hread.message]
  cases hstage : CallbackStage.ofName? name with
  | none =>
    rw [hstage] at hrun
    have hblocks : Blocks r segment .stage := by
      refine ⟨name, hread.segment, fun t ht => ?_⟩
      rw [CallbackStage.ofName?_eq_some_iff.2 ht.symm] at hstage
      cases hstage
    exact .inl ⟨.stage, ⟨hblocks, by simp [earlier, all, noSegment, noMediaType, noSize, noBody]⟩,
      _, ⟨name, hread.segment, reports_ofFailure _⟩, hrun⟩
  | some stage =>
    obtain rfl := CallbackStage.ofName?_eq_some_iff.1 hstage
    have noStage : ¬ Blocks r segment .stage := by
      rintro ⟨name, hname, hnone⟩
      exact hnone stage (Option.some.inj (hname.symm.trans hread.segment))
    rw [hstage] at hrun
    rcases handlerFor?_cases today m.eventId with ⟨hnone, hevent⟩ | ⟨h, e, hsome, hh, he, hname⟩
    · rw [hnone] at hrun
      exact .inl ⟨.event, ⟨⟨m, hread.message, hevent⟩,
        by simp [earlier, all, noSegment, noMediaType, noSize, noBody, noStage]⟩,
        _, ⟨m, hread.message, reports_ofFailure _⟩, hrun⟩
    · have noEvent : ¬ Blocks r segment .event := by
        rintro ⟨m', hm', hnone⟩
        obtain rfl := Except.ok.inj (hm'.symm.trans hread.message)
        exact hnone e (mem_handledEvents hh he) hname
      rw [hsome] at hrun
      cases hrecord : m.snapshot.toRecord with
      | error failure =>
        rw [hrecord] at hrun
        obtain ⟨cause, rfl⟩ := CaseSnapshot.exists_shape_of_toRecord hrecord
        exact .inl ⟨.data, ⟨⟨m, _, hread.message, hrecord⟩,
          by simp [earlier, all, noSegment, noMediaType, noSize, noBody, noStage, noEvent]⟩,
          _, ⟨cause, reports_ofFailure _⟩, hrun⟩
      | ok record =>
        rw [hrecord] at hrun
        exact .inr ⟨⟨stage, m, record⟩, h, ⟨hread, hrecord, hh, e, he, hname⟩, hrun⟩

/-! ## Failures of errands -/

theorem Procedure.PassesOn.discard {α : Type} {x : Procedure α} (h : x.PassesOn) :
    PassesOn (Functor.discard x) := by
  have hbind : Functor.discard x = x >>= fun _ => pure PUnit.unit := by
    rw [Functor.discard, LawfulFunctor.map_const, Function.comp_apply, map_eq_pure_bind]
  rw [hbind]
  exact h.bind fun _ => passesOn_pure _

/-- An update of the parent case passes on the failure of either step. -/
theorem CaseRecord.passesOn_updateParent (child : CaseRecord) (state : String) :
    (child.updateParent state).PassesOn := by
  refine (Procedure.passesOn_require _ _).bind fun c => ?_
  refine (Procedure.passesOn_require _ _).bind fun r => ?_
  refine (Procedure.passesOn_start _ _).bind fun started => ?_
  refine (Procedure.passesOn_lift _).bind fun parent => ?_
  exact (Procedure.passesOn_submit _ _).discard

/-- So does every handler. -/
theorem CallbackHandler.passesOn_handle {today : Date} {h : CallbackHandler}
    (hh : h ∈ CallbackHandler.all today) (c : Callback) : (h.handle c).PassesOn := by
  rcases mem_all_iff.1 hh with rfl | rfl | rfl
  · simp only [respondentNotification]
    cases c.stage with
    | aboutToSubmit =>
      exact (Procedure.passesOn_notify _).bind fun _ => Procedure.passesOn_pure _
    | aboutToStart => exact Procedure.passesOn_pure _
    | mid => exact Procedure.passesOn_pure _
    | submitted => exact Procedure.passesOn_pure _
  · simp only [decisionPage]
    cases c.stage <;> exact Procedure.passesOn_pure _
  · simp only [endOfProcess]
    cases c.stage with
    | aboutToSubmit =>
      refine (Procedure.passesOn_require _ _).bind fun state => ?_
      exact (c.record.passesOn_updateParent state).bind fun _ => Procedure.passesOn_pure _
    | aboutToStart => exact Procedure.passesOn_pure _
    | mid => exact Procedure.passesOn_pure _
    | submitted => exact Procedure.passesOn_pure _

/-! ## The answer -/

theorem respond_of_callback (today : Date)
    (hroute : Route.ofPath (path r.target) = .callback segment) (hmethod : r.method = "POST") :
    respond (.standard today) r =
      match readCallback segment r with
      | .error answer => .done answer
      | .ok (name, m) => ofOutcome <$> (callback (.standard today) name m).run := by
  simp only [respond, hroute, hmethod, ne_eq, not_true_eq_false, if_false, bind_pure_comp]
  rfl

/-- The callback meets an obstacle and is answered at once, or it reaches its handler. -/
theorem respond_cases (today : Date)
    (hroute : Route.ofPath (path r.target) = .callback segment) (hmethod : r.method = "POST") :
    (∃ o : Obstacle, o.IsFirst r segment ∧ ∃ answer, o.Answers r segment answer ∧
      respond (.standard today) r = .done answer) ∨
    ∃ c h, r.Reaches today segment c h ∧
      respond (.standard today) r = ofOutcome <$> (h.handle c).run := by
  rw [respond_of_callback today hroute hmethod]
  rcases Obstacle.readCallback_cases segment r with
    ⟨o, hfirst, answer, hanswers, hread⟩ | ⟨name, m, hreads, hread⟩
  · rw [hread]
    exact .inl ⟨o, hfirst, answer, hanswers, rfl⟩
  · rw [hread]
    rcases Obstacle.callback_cases hreads today with
      ⟨o, hfirst, failure, hanswers, hrun⟩ | ⟨c, h, hreaches, hrun⟩
    · simp only [hrun]
      exact .inl ⟨o, hfirst, _, hanswers, rfl⟩
    · simp only [hrun]
      exact .inr ⟨c, h, hreaches, rfl⟩

end

/-- A callback, whoever the collaborators are: the first obstacle is its answer, and nobody is
called. Without an obstacle it comes to a handler of its event with the record of its case data, and
its answer is what that handler comes to: success with a response, or a failure that can be read
back from the body. An errand that fails is that failure. -/
theorem respond_in_order {σ : Type} (w : Collaborators σ) (s : σ) (today : Date) {r : Request}
    {segment : List Char} (hroute : Route.ofPath (path r.target) = .callback segment)
    (hmethod : r.method = "POST") :
    let x := w.run s (respond (.standard today) r)
    (∀ o : Obstacle, o.IsFirst r segment →
      o.Answers r segment x.result ∧ x.calls = [] ∧ x.state = s) ∧
    ((∀ o : Obstacle, ¬ o.Blocks r segment) →
      ∃ c h, r.Reaches today segment c h ∧
        let y := w.run s (h.handle c).run
        x.result.Gives y.result ∧ x.calls = y.calls ∧ x.state = y.state ∧
        ∀ call ∈ y.calls, ∀ f, call.failure? = some f → y.result = .error f) := by
  intro x
  rcases respond_cases today hroute hmethod with
    ⟨o, hfirst, answer, hanswers, hrespond⟩ | ⟨c, h, hreaches, hrespond⟩
  · refine ⟨fun o' hfirst' => ?_, fun hnone => absurd hfirst.blocks (hnone o)⟩
    obtain rfl := hfirst'.unique hfirst
    have hx : x = ⟨answer, [], s⟩ := by simp only [x, hrespond, Collaborators.run_done]
    rw [hx]
    exact ⟨hanswers, rfl, rfl⟩
  · refine ⟨fun o hfirst => absurd hfirst.blocks (hreaches.not_blocks o), fun _ => ?_⟩
    have hx : x = (w.run s (h.handle c).run).map ofOutcome := by
      simp only [x, hrespond, Collaborators.run_map]
    rw [hx]
    exact ⟨c, h, hreaches, gives_ofOutcome _, rfl, rfl,
      CallbackHandler.passesOn_handle hreaches.handler c σ w s⟩

/-- A callback that names no stage and no event that is handled, with case data that is none. -/
def misdirectedCallback : Request where
  method := "POST"
  target := "/cases/callbacks/sometime"
  contentType := some "application/json"
  body := "\x7b\"event_id\":\"CLOSE_CASE\",\"case_details\":" ++
    "\x7b\"id\":1111222233334444,\"case_data\":" ++
    "\x7b\"applicationIsUncloakedOnce\":\"Maybe\"\x7d\x7d\x7d"

/-- Of the three obstacles that it meets, the answer tells of the stage. -/
theorem respond_in_order_misdirected :
    let segment := "sometime".toList
    let x := (Platform.collaborators .none).run .vacant
      (respond (.standard ⟨2024, 1, 1, by decide⟩) misdirectedCallback)
    (∀ o ∈ [Obstacle.stage, .event, .data], o.Blocks misdirectedCallback segment) ∧
      x.result.Reports ⟨.badRequest, "Invalid callback type: sometime", none⟩ ∧ x.calls = [] := by
  intro segment x
  have hname : decodePart? (String.ofList segment) = some "sometime" :=
    decodePart?_eq_self (by decide)
  have hmedia : announcesJson misdirectedCallback.contentType = true := by decide +kernel
  have hsize : misdirectedCallback.body.utf8ByteSize ≤ 2097152 := by decide +kernel
  let snapshot : CaseSnapshot :=
    ⟨⟨1111222233334444, by decide, by decide⟩, none, none, none,
      .ofMembers [("applicationIsUncloakedOnce", .string "Maybe")]⟩
  have hm : misdirectedCallback.reading = .ok ⟨"CLOSE_CASE", snapshot, none⟩ := by
    decide +kernel
  have hevent : ∀ e ∈ handledEvents, "CLOSE_CASE" ≠ e.name := by decide
  obtain ⟨failure, hfailure⟩ : ∃ failure, snapshot.toRecord = .error failure := by
    cases hrecord : snapshot.toRecord with
    | error failure => exact ⟨failure, rfl⟩
    | ok record =>
      have hnot : snapshot.toRecord.toOption = none := by decide +kernel
      simp [hrecord, Except.toOption] at hnot
  have hstage : ∀ t : CallbackStage, "sometime" ≠ t.name := by
    intro t
    cases t <;> decide
  have hfirst : Obstacle.stage.IsFirst misdirectedCallback segment := by
    refine ⟨⟨_, hname, hstage⟩, ?_⟩
    simp [Obstacle.earlier, Obstacle.all, Obstacle.Blocks, hname, hmedia, hm, Nat.not_lt.2 hsize]
  have hroute : Route.ofPath (path misdirectedCallback.target) = .callback segment := by
    decide +kernel
  obtain ⟨⟨name, hdecoded, hreports⟩, hcalls, -⟩ :=
    (respond_in_order (Platform.collaborators .none) .vacant ⟨2024, 1, 1, by decide⟩ hroute
      rfl).1 .stage hfirst
  obtain rfl := Option.some.inj (hname.symm.trans hdecoded)
  refine ⟨?_, hreports, hcalls⟩
  simp only [List.mem_cons, List.not_mem_nil, or_false, forall_eq_or_imp, forall_eq]
  exact ⟨hfirst.blocks, ⟨_, hm, hevent⟩, ⟨_, failure, hm, hfailure⟩⟩

end GeneralApplications

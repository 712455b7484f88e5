import GeneralApplications.Proofs.Service.Checks

/-!
# Metadata in the case data

A callback carries its application twice: in the envelope, and again under the envelope keys of the
case data, where it may be stale, ill-typed or missing. Only the envelope counts. Two callbacks that
differ in nothing but metadata (`CallbackRequest.SameButMetadata`) have the same record, are handled
by the same calls, and get the same answer up to the data that it echoes
(`respond_ignores_metadata`).
-/

namespace GeneralApplications

open Http
open Json (Codec Object)

/-! ## Metadata -/

/-- Two callbacks that may differ in the metadata of their case: in what their data says under the
envelope keys, in the jurisdiction, in the type of the case, and in the case as it was before. -/
structure CallbackRequest.SameButMetadata (m n : CallbackRequest) : Prop where
  eventId : m.eventId = n.eventId
  reference : m.snapshot.id = n.snapshot.id
  state : m.snapshot.state = n.snapshot.state
  data : ∀ k ∉ CaseRecord.envelopeKeys, m.snapshot.data.get? k = n.snapshot.data.get? k

/-- What is read as a record has the envelope's values under the envelope keys. -/
theorem CaseSnapshot.recordObject_congr {s t : CaseSnapshot} (hid : s.id = t.id)
    (hstate : s.state = t.state)
    (hdata : ∀ k ∉ CaseRecord.envelopeKeys, s.data.get? k = t.data.get? k) :
    s.recordObject = t.recordObject := by
  refine Object.ext_get? fun k => ?_
  by_cases hk : k ∈ CaseRecord.envelopeKeys
  · simp only [CaseRecord.envelopeKeys, List.mem_cons, List.not_mem_nil, or_false] at hk
    rcases hk with rfl | rfl
    · rw [get?_recordObject_reference, get?_recordObject_reference, hid]
    · rw [get?_recordObject_state, get?_recordObject_state, hstate]
  · rw [get?_recordObject hk, get?_recordObject hk, hdata k hk]

theorem CallbackRequest.SameButMetadata.toRecord {m n : CallbackRequest}
    (h : m.SameButMetadata n) : m.snapshot.toRecord = n.snapshot.toRecord := by
  simp only [CaseSnapshot.toRecord,
    CaseSnapshot.recordObject_congr h.reference h.state h.data]

/-! ## Answers without their data -/

/-- The response without the case data that it gives. -/
def CallbackResponse.withoutData (r : CallbackResponse) : CallbackResponse :=
  { r with data := none }

/-- The answer without the member for the case data in its body. -/
def Http.Response.withoutData (answer : Response) : Response :=
  match answer.content with
  | .json (some (.object members)) =>
    { answer with content := .json (some (.object (members.filter fun x => x.1 ≠ "data"))) }
  | _ => answer

theorem withoutData_json (status : Nat) (o : Object) :
    (Response.json status o.toJson).withoutData = .json status (o.erase "data").toJson := rfl

namespace Json.Object

theorem get?_foldl_insertSome_congr {o p : Object} {k : String} (h : o.get? k = p.get? k)
    (fields : List (String × Option Json)) :
    (fields.foldl (fun o f => o.insertSome f.1 f.2) o).get? k =
      (fields.foldl (fun o f => o.insertSome f.1 f.2) p).get? k := by
  induction fields generalizing o p with
  | nil => exact h
  | cons f fields ih => exact ih (by rw [get?_insertSome, get?_insertSome, h])

/-- The object of some fields, without the first of them. -/
theorem erase_ofFields_cons {k : String} {v : Option Json} {fields : List (String × Option Json)}
    (hk : k ∉ fields.map (·.1)) : (ofFields ((k, v) :: fields)).erase k = ofFields fields := by
  refine ext_get? fun k' => ?_
  rw [get?_erase]
  split
  next h =>
    subst h
    exact (get?_foldl_insertSome_of_not_mem hk ∅).symm
  next h => exact get?_foldl_insertSome_congr (by rw [get?_insertSome, if_neg h]) fields

end Json.Object

/-- The fields of a response but for its data. -/
def CallbackResponse.otherFields (r : CallbackResponse) : List (String × Option Json) :=
  [("errors", some (.array (r.errors.map .string))),
    ("warnings", some (.array (r.warnings.map .string))),
    ("state", r.state.map .string),
    ("confirmation_header", r.confirmationHeader.map .string),
    ("confirmation_body", r.confirmationBody.map .string)]

theorem CallbackResponse.encode_eq (r : CallbackResponse) :
    (codec : Codec Json CallbackResponse).encode r =
      (Object.ofFields (("data", r.data.map Object.toJson) :: r.otherFields)).toJson := rfl

/-- A failure is written without a member of that name. -/
theorem Failure.encode_erase_data (f : Failure) :
    ∃ o : Object, (codec : Codec Json Failure).encode f = o.toJson ∧ o.erase "data" = o := by
  refine ⟨_, rfl, Object.ext_get? fun k => ?_⟩
  rw [Object.get?_erase]
  split
  next h =>
    subst h
    have hk : "data" ∉ ["kind", "message", "cause"] := by decide
    exact (Json.Layout.get?_object_of_not_mem hk).symm
  next h => rfl

theorem withoutData_ofOutcome (outcome : Except Failure CallbackResponse) :
    (ofOutcome outcome).withoutData = ofOutcome (outcome.map (·.withoutData)) := by
  cases outcome with
  | ok r =>
    have hk : "data" ∉ r.otherFields.map (·.1) := by simp [CallbackResponse.otherFields]
    have herase := Object.erase_ofFields_cons (v := r.data.map Object.toJson) hk
    simp only [ofOutcome, Except.map, CallbackResponse.encode_eq, withoutData_json, herase]
    rfl
  | error f =>
    obtain ⟨o, hf, hsame⟩ := f.encode_erase_data
    simp only [ofOutcome, ofFailure, Except.map, hf, withoutData_json, hsame]

/-! ## Handlers -/

/-- A handler acts on the record and the envelope's state; the rest of the request is only
echoed. -/
theorem CallbackHandler.handle_withoutData {today : Date} {h : CallbackHandler}
    (hh : h ∈ CallbackHandler.all today) (stage : CallbackStage) (record : CaseRecord)
    {m n : CallbackRequest} (hstate : m.snapshot.state = n.snapshot.state) :
    CallbackResponse.withoutData <$> h.handle ⟨stage, m, record⟩ =
      CallbackResponse.withoutData <$> h.handle ⟨stage, n, record⟩ := by
  have hechoed : (CallbackResponse.withData m.snapshot.data).withoutData =
      (CallbackResponse.withData n.snapshot.data).withoutData := rfl
  rcases mem_all_iff.1 hh with rfl | rfl | rfl
  · simp only [respondentNotification]
    cases stage with
    | aboutToSubmit => simp only [map_bind, map_pure, Callback.data, hechoed]
    | aboutToStart | mid | submitted => rfl
  · simp only [decisionPage]
    cases stage <;> rfl
  · simp only [endOfProcess]
    cases stage with
    | aboutToSubmit => simp only [map_bind, map_pure, Callback.data, hechoed, hstate]
    | aboutToStart | mid | submitted => rfl

theorem callback_withoutData (today : Date) (segment : String) {m n : CallbackRequest}
    (h : m.SameButMetadata n) :
    Except.map CallbackResponse.withoutData <$> (callback (.standard today) segment m).run =
      Except.map CallbackResponse.withoutData <$> (callback (.standard today) segment n).run := by
  rw [run_callback_eq, run_callback_eq, h.eventId, h.toRecord]
  cases CallbackStage.ofName? segment with
  | none => rfl
  | some stage =>
    rcases handlerFor?_cases today n.eventId with ⟨hnone, -⟩ | ⟨handler, -, hsome, hh, -⟩
    · rw [hnone]
    · rw [hsome]
      cases n.snapshot.toRecord with
      | error failure => rfl
      | ok record =>
        have hsame := CallbackHandler.handle_withoutData hh stage record h.state
        have hrun := congrArg ExceptT.run hsame
        rw [ExceptT.run_map, ExceptT.run_map] at hrun
        exact hrun

/-- A callback that can be read is handed to the registry. -/
theorem respond_of_read (today : Date) {r : Request} {segment : String} {m : CallbackRequest}
    (hread : r.callback? = some (segment, m)) :
    respond (.standard today) r = ofOutcome <$> (callback (.standard today) segment m).run := by
  unfold Http.Request.callback? at hread
  cases hroute : Route.ofPath (path r.target) with
  | unknown | health | documentation => simp [hroute] at hread
  | callback written =>
    simp only [hroute, Option.ite_none_right_eq_some] at hread
    obtain ⟨hmethod, hread⟩ := hread
    rw [respond_of_callback today hroute hmethod]
    cases hresult : readCallback written r with
    | error answer => simp [hresult, Except.toOption] at hread
    | ok read =>
      obtain rfl : read = (segment, m) := by simpa [hresult, Except.toOption] using hread
      rfl

/-! ## What is acted on -/

/-- Some calls act on one application in one state: its record is what the respondents are notified
of, and its state is what is recorded on the parent case, in the data that came with the start. -/
structure ActsOn (calls : List Call) (c : CaseReference) (state : Option String) : Prop where
  notifies : ∀ record outcome, (⟨.notify record, outcome⟩ : Call) ∈ calls →
    record.reference = some c ∧ record.state = state
  submits : ∀ parent content outcome, (⟨.submit parent content, outcome⟩ : Call) ∈ calls →
    ∃ started value uncloaked, state = some value ∧
      ⟨.start parent .updateParentState, .ok started⟩ ∈ calls ∧
      started.snapshot.recording c value uncloaked = .ok content.data

theorem actsOn_nil (c : CaseReference) (state : Option String) : ActsOn [] c state :=
  ⟨by simp, by simp⟩

section
variable {σ : Type} (w : Collaborators σ) (s : σ)

/-- An update, once it is started, submits the application's state in the data of the start. -/
theorem actsOn_finishUpdate (child : CaseRecord) (state : String) (c r : CaseReference)
    (outcome : Except Failure StartedEvent) :
    ActsOn (⟨.start r .updateParentState, outcome⟩ ::
      (w.run s (child.finishUpdate state c r outcome)).calls) c (some state) := by
  cases outcome with
  | error failure => exact ⟨by simp [CaseRecord.finishUpdate], by simp [CaseRecord.finishUpdate]⟩
  | ok started =>
    cases hdata : started.snapshot.recording c state child.isUncloaked with
    | error failure =>
      have hrest : child.finishUpdate state c r (.ok started) = .done (.error failure) := by
        simp only [CaseRecord.finishUpdate, hdata]
      rw [hrest]
      exact ⟨by simp, by simp⟩
    | ok data =>
      have hrest : child.finishUpdate state c r (.ok started) =
          .ask (.submit r (started.update data)) fun outcome =>
            .done (outcome.map fun _ => ()) := by
        simp only [CaseRecord.finishUpdate, hdata]
      rw [hrest]
      refine ⟨by simp, fun parent content outcome hmem => ?_⟩
      obtain ⟨⟨rfl, rfl⟩, -⟩ : (parent = r ∧ content = started.update data) ∧ _ := by
        simpa using hmem
      exact ⟨started, state, child.isUncloaked, rfl, List.mem_cons_self .., hdata⟩

theorem actsOn_handle {today : Date} {h : CallbackHandler} (hh : h ∈ CallbackHandler.all today)
    {c : Callback} (hrecord : c.request.snapshot.toRecord = .ok c.record) :
    ActsOn (w.run s (ofOutcome <$> (h.handle c).run)).calls c.request.snapshot.id
      c.request.snapshot.state := by
  have hreference := CaseSnapshot.reference_of_toRecord hrecord
  rcases CallbackHandler.mem_all_iff.1 hh with rfl | rfl | rfl
  · cases hstage : c.stage with
    | aboutToSubmit =>
      rw [run_respondentNotification hstage]
      refine ⟨fun record outcome hmem => ?_, by simp⟩
      obtain ⟨rfl, -⟩ : record = c.record ∧ _ := by simpa using hmem
      exact ⟨hreference, CaseSnapshot.state_of_toRecord hrecord⟩
    | aboutToStart | mid | submitted =>
      simp only [CallbackHandler.respondentNotification, hstage]
      exact actsOn_nil _ _
  · simp only [CallbackHandler.decisionPage]
    cases c.stage <;> exact actsOn_nil _ _
  · cases hstage : c.stage with
    | aboutToSubmit =>
      rcases run_endOfProcess_cases hstage hreference with
        ⟨outcome, hrun⟩ | ⟨state, parent, hstate, -, hrun⟩
      · rw [hrun]
        exact actsOn_nil _ _
      · rw [hrun, hstate, Collaborators.run_ask, Collaborators.run_map]
        exact actsOn_finishUpdate w _ _ _ _ _ _
    | aboutToStart | mid | submitted =>
      simp only [CallbackHandler.endOfProcess, hstage]
      exact actsOn_nil _ _

theorem actsOn_callback (today : Date) (segment : String) (m : CallbackRequest) :
    ActsOn (w.run s (ofOutcome <$> (callback (.standard today) segment m).run)).calls
      m.snapshot.id m.snapshot.state := by
  rcases run_callback_cases today segment m with
    ⟨failure, hrun⟩ | ⟨event, stage, record, h, -, -, hrecord, hfound, hrun⟩
  · rw [hrun]
    exact actsOn_nil _ _
  · rw [hrun]
    have hh := (CallbackRegistry.mem_of_handler? hfound).1
    exact actsOn_handle w s hh (c := ⟨stage, m, record⟩) hrecord

/-- Metadata in the case data of a callback steers nothing, whoever the collaborators are. Of two
callbacks that differ in metadata only, the calls with their outcomes are the same, the
collaborators are left in the same state, and the answers have the same status and the same body up
to the data. What the calls act on is the envelope's application in the envelope's state. -/
theorem respond_ignores_metadata (today : Date) {r r' : Request} {segment : String}
    {m m' : CallbackRequest} (hread : r.callback? = some (segment, m))
    (hread' : r'.callback? = some (segment, m')) (h : m.SameButMetadata m') :
    let x := w.run s (respond (.standard today) r)
    let x' := w.run s (respond (.standard today) r')
    x.calls = x'.calls ∧ x.state = x'.state ∧ x.result.withoutData = x'.result.withoutData ∧
      ActsOn x.calls m.snapshot.id m.snapshot.state := by
  intro x x'
  let y := w.run s (callback (.standard today) segment m).run
  let y' := w.run s (callback (.standard today) segment m').run
  have hx : x = y.map ofOutcome := by
    simp only [x, y, respond_of_read today hread, Collaborators.run_map]
  have hx' : x' = y'.map ofOutcome := by
    simp only [x', y', respond_of_read today hread', Collaborators.run_map]
  have hsame : y.map (Except.map CallbackResponse.withoutData) =
      y'.map (Except.map CallbackResponse.withoutData) := by
    simp only [y, y', ← Collaborators.run_map, callback_withoutData today segment h]
  have hacts : ActsOn x.calls m.snapshot.id m.snapshot.state := by
    simp only [x, respond_of_read today hread]
    exact actsOn_callback w s today segment m
  have hcalls : y.calls = y'.calls := congrArg (fun a => a.calls) hsame
  have hstate : y.state = y'.state := congrArg (fun a => a.state) hsame
  have hresult := congrArg (fun a => ofOutcome a.result) hsame
  rw [hx] at hacts ⊢
  rw [hx']
  exact ⟨hcalls, hstate,
    (withoutData_ofOutcome _).trans (hresult.trans (withoutData_ofOutcome _).symm), hacts⟩

end

/-- The end of the judge's process on an application, with the text of some metadata in front of the
rest of its case data. -/
def endOfProcessWith (metadata : String) : Request where
  method := "POST"
  target := "/cases/callbacks/about-to-submit"
  contentType := some "application/json"
  body := "\x7b\"event_id\":\"END_JUDGE_BUSINESS_PROCESS_GASPEC\",\"case_details\":" ++
    "\x7b\"id\":6666777788889999,\"state\":\"ORDER_MADE\",\"case_data\":\x7b" ++ metadata ++
    "\"generalAppParentCaseLink\":\x7b\"CaseReference\":\"8888777766665555\"\x7d\x7d\x7d\x7d"

/-- The callback that is read from it. -/
def endOfProcessMessage (metadata : List (String × Json)) : CallbackRequest where
  eventId := "END_JUDGE_BUSINESS_PROCESS_GASPEC"
  snapshot :=
    { id := ⟨6666777788889999, by decide, by decide⟩
      jurisdiction := none
      caseType := none
      state := some "ORDER_MADE"
      data := .ofMembers (metadata ++ [("generalAppParentCaseLink",
        .object [("CaseReference", .string "8888777766665555")])]) }
  before := none

/-- A reference that is none and the state of another application, in the case data, change neither
the two calls nor the answer. -/
theorem respond_ignores_metadata_illTyped :
    let w := Platform.collaborators .none
    let p : Platform :=
      ⟨some ⟨⟨8888777766665555, by decide, by decide⟩, none, none, none, ∅⟩, 0⟩
    let today : Date := ⟨2024, 1, 1, by decide⟩
    let r := endOfProcessWith ""
    let r' := endOfProcessWith "\"ccdCaseReference\":[7],\"ccdState\":\"CLOSED\","
    (w.run p (respond (.standard today) r)).calls.length = 2 ∧
      (w.run p (respond (.standard today) r)).calls =
        (w.run p (respond (.standard today) r')).calls ∧
      (w.run p (respond (.standard today) r)).result.withoutData =
        (w.run p (respond (.standard today) r')).result.withoutData := by
  intro w p today r r'
  let forged : List (String × Json) :=
    [("ccdCaseReference", .array [.ofInt 7]), ("ccdState", .string "CLOSED")]
  have hread : r.callback? = some ("about-to-submit", endOfProcessMessage []) := by
    decide +kernel
  have hread' : r'.callback? = some ("about-to-submit", endOfProcessMessage forged) := by
    decide +kernel
  have hsame : (endOfProcessMessage []).SameButMetadata (endOfProcessMessage forged) := by
    refine ⟨rfl, rfl, rfl, fun k hk => ?_⟩
    simp only [CaseRecord.envelopeKeys, List.mem_cons, List.not_mem_nil, or_false, not_or] at hk
    simp [endOfProcessMessage, forged, Object.get?_ofMembers, Object.lookup, Ne.symm hk.1,
      Ne.symm hk.2]
  have hlength : (w.run p (respond (.standard today) r)).calls.length = 2 := by
    rw [respond_of_read today hread]
    decide +kernel
  obtain ⟨hcalls, -, hresult, -⟩ := respond_ignores_metadata w p today hread hread' hsame
  exact ⟨hlength, hcalls, hresult⟩

end GeneralApplications

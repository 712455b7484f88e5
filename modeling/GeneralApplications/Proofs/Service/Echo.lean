import GeneralApplications.Proofs.Json.Parts
import GeneralApplications.Proofs.Service.Checks

/-!
# Echoed case data

A callback that succeeds gives the case data back as it was sent, or leaves it out; it never gives
the record that was read from it (`respond_echoes`). What was sent is said in terms of the request's
text alone (`Http.Request.Sends`).
-/

namespace GeneralApplications

open Http
open Json (Codec Document Object)

/-! ## What is sent -/

/-- The part of a callback's text that gives the case data. -/
def Http.Request.sentData? (r : Request) : Option Document :=
  ((Document.read r.body).1.field? ["case_details"] 1).bind (·.field? ["case_data", "data"] 4)

/-- The case data in the text of a callback, as parsed JSON; where there is none, it is empty. -/
def Http.Request.Sends (r : Request) (data : Object) : Prop :=
  match r.sentData? with
  | some t => t.toJson = .ok data.toJson
  | none => data = ∅

theorem CallbackRequest.part_of_decode {t : Document} {m : CallbackRequest}
    (h : (CallbackRequest.codec : Codec Document CallbackRequest).decode t = .ok m) :
    ∃ part, t.field? ["case_details"] 1 = some part ∧
      (CaseSnapshot.codec : Codec Document CaseSnapshot).decode part = .ok m.snapshot := by
  obtain ⟨fs, hread, hfind⟩ := Codec.exists_findings_of_decode h
  simp only [Json.Layout.read_seq_eq_ok, Json.Layout.read_map_eq_ok] at hread
  obtain ⟨_, ⟨_, ⟨_, _, rfl⟩, snapshot, hsnapshot, rfl⟩, _, _, rfl⟩ := hread
  obtain ⟨found, hfound, hdecode⟩ := Json.Layout.find_of_read_required hsnapshot
  exact ⟨found.2, (hfind _ _ hfound).symm, hdecode⟩

theorem CaseSnapshot.part_of_decode {t : Document} {s : CaseSnapshot}
    (h : (CaseSnapshot.codec : Codec Document CaseSnapshot).decode t = .ok s) :
    (t.field? ["case_data", "data"] 4 = none ∧ s.data = ∅) ∨
    ∃ part, t.field? ["case_data", "data"] 4 = some part ∧ part.toJson = .ok s.data.toJson := by
  obtain ⟨fs, hread, hfind⟩ := Codec.exists_findings_of_decode h
  simp only [Json.Layout.read_seq_eq_ok, Json.Layout.read_map_eq_ok] at hread
  obtain ⟨_, ⟨_, ⟨_, ⟨_, ⟨_, _, rfl⟩, _, _, rfl⟩, _, _, rfl⟩, _, _, rfl⟩, data, hdata, rfl⟩ := hread
  rcases Json.Layout.find_of_read_defaulted hdata with ⟨hnone, hempty⟩ | ⟨found, hfound, hdecode⟩
  · exact .inl ⟨(hfind _ _ hnone).symm, hempty⟩
  · exact .inr ⟨found.2, (hfind _ _ hfound).symm, Json.toJson_of_readObject hdecode⟩

/-- The data of a callback that was read is what its text sends. -/
theorem Http.Request.sends_of_reading {r : Request} {m : CallbackRequest}
    (h : r.reading = .ok m) : r.Sends m.snapshot.data := by
  obtain ⟨part, hpart, hsnapshot⟩ := CallbackRequest.part_of_decode (Json.read_of_readText h)
  unfold Sends
  rcases CaseSnapshot.part_of_decode hsnapshot with ⟨hnone, hempty⟩ | ⟨data, hdata, hvalue⟩
  · have hsent : r.sentData? = none := by rw [sentData?, hpart, Option.bind_some, hnone]
    rw [hsent]
    exact hempty
  · have hsent : r.sentData? = some data := by rw [sentData?, hpart, Option.bind_some, hdata]
    rw [hsent]
    exact hvalue

/-! ## What is answered -/

/-- The only response with which the callback of an event can succeed. -/
def Callback.success (today : Date) (event : CaseEvent) (c : Callback) : CallbackResponse :=
  match c.stage, event with
  | .aboutToSubmit, _ => .withData c.data
  | .mid, .makeDecision =>
    .withErrors c.data ((c.record.deadlineFindings today).map (·.message))
  | _, _ => .empty

section
variable {σ : Type} (w : Collaborators σ) (s : σ)

theorem result_bind_pure {α : Type} {x : Procedure α} {answer b : CallbackResponse}
    (h : (w.run s (x >>= fun _ => pure b).run).result = .ok answer) : answer = b := by
  rw [run_bind_pure, Collaborators.run_map, Account.map] at h
  cases hx : (w.run s x.run).result with
  | ok a =>
    rw [hx] at h
    exact (Except.ok.inj h).symm
  | error f =>
    rw [hx] at h
    cases h

/-- Whatever its errands come to, a handler succeeds with that response or fails. -/
theorem CallbackHandler.eq_success {today : Date} {h : CallbackHandler}
    (hh : h ∈ CallbackHandler.all today) {event : CaseEvent} (hevent : event ∈ h.events)
    {c : Callback} {answer : CallbackResponse}
    (hresult : (w.run s (h.handle c).run).result = .ok answer) :
    answer = c.success today event := by
  obtain ⟨stage, m, record⟩ := c
  rcases mem_all_iff.1 hh with rfl | rfl | rfl <;> obtain rfl := List.mem_singleton.1 hevent
  · cases stage with
    | aboutToSubmit => exact result_bind_pure w s hresult
    | aboutToStart | mid | submitted => exact (Except.ok.inj hresult).symm
  · cases stage <;> exact (Except.ok.inj hresult).symm
  · cases stage with
    | aboutToSubmit =>
      simp only [endOfProcess] at hresult
      cases hstate : m.snapshot.state with
      | none =>
        simp only [hstate, Procedure.require] at hresult
        cases hresult
      | some state =>
        simp only [hstate, Procedure.require, pure_bind] at hresult
        exact result_bind_pure w s hresult
    | aboutToStart | mid | submitted => exact (Except.ok.inj hresult).symm

/-- A response that alters nothing of the submitted case: it gives the case data as the request
sends it, or none, and its errors are the findings about the converted data. -/
structure CallbackResponse.Echoes (answer : CallbackResponse) (r : Request) (today : Date)
    (event : CaseEvent) (c : Callback) : Prop where
  state : answer.state = none
  confirmationHeader : answer.confirmationHeader = none
  confirmationBody : answer.confirmationBody = none
  warnings : answer.warnings = []
  present : answer.data.isSome = true ↔
    c.stage = .aboutToSubmit ∨ c.stage = .mid ∧ event = .makeDecision
  sent : ∀ data, answer.data = some data → r.Sends data
  errors : answer.errors =
    if c.stage = .mid ∧ event = .makeDecision then
      (c.record.deadlineFindings today).map (·.message)
    else []

section
variable {r : Request} {today : Date} {event : CaseEvent} {c : Callback}

theorem CallbackResponse.echoes_empty (hstage : c.stage ≠ .aboutToSubmit)
    (hmid : ¬ (c.stage = .mid ∧ event = .makeDecision)) :
    CallbackResponse.empty.Echoes r today event c where
  state := rfl
  confirmationHeader := rfl
  confirmationBody := rfl
  warnings := rfl
  present := by simp [empty, hstage, hmid]
  sent := nofun
  errors := (if_neg hmid).symm

theorem CallbackResponse.echoes_withErrors {data : Object} {errors : List String}
    (hdata : r.Sends data)
    (hstage : c.stage = .aboutToSubmit ∨ c.stage = .mid ∧ event = .makeDecision)
    (herrors : errors = if c.stage = .mid ∧ event = .makeDecision then
      (c.record.deadlineFindings today).map (·.message) else []) :
    (CallbackResponse.withErrors data errors).Echoes r today event c where
  state := rfl
  confirmationHeader := rfl
  confirmationBody := rfl
  warnings := rfl
  present := by simp [withErrors, hstage]
  sent := by
    rintro data ⟨⟩
    exact hdata
  errors := herrors

end

/-- The response of a callback that succeeds is such a one. -/
theorem Callback.echoes_success {r : Request} {c : Callback} (today : Date) (event : CaseEvent)
    (hread : r.reading = .ok c.request) : (c.success today event).Echoes r today event c := by
  have hsends : r.Sends c.data := r.sends_of_reading hread
  obtain ⟨stage, m, record⟩ := c
  cases stage with
  | aboutToSubmit =>
    exact CallbackResponse.echoes_withErrors hsends (.inl rfl) (if_neg (by simp)).symm
  | mid =>
    by_cases hevent : event = .makeDecision
    · subst hevent
      exact CallbackResponse.echoes_withErrors hsends (.inr ⟨rfl, rfl⟩) (by simp)
    · have hempty : success today event ⟨.mid, m, record⟩ = .empty := by
        cases event <;> first | rfl | exact absurd rfl hevent
      rw [hempty]
      exact CallbackResponse.echoes_empty (by simp) (by simp [hevent])
  | aboutToStart | submitted => exact CallbackResponse.echoes_empty (by simp) (by simp)

/-! ## Success -/

theorem Failure.Kind.status_ne_ok (k : Failure.Kind) : k.status ≠ 200 := by
  cases k <;> decide

theorem Http.Obstacle.Answers.status_ne_ok {r : Request} {segment : List Char} {answer : Response}
    {o : Obstacle} (h : o.Answers r segment answer) : answer.status ≠ 200 := by
  cases o with
  | segment | mediaType | size =>
    obtain rfl : answer = _ := h
    decide
  | body =>
    obtain ⟨text, rfl | rfl⟩ := h
    · exact (by decide : (400 : Nat) ≠ 200)
    · exact (by decide : (422 : Nat) ≠ 200)
  | stage =>
    obtain ⟨name, -, hreports⟩ := h
    exact hreports.status ▸ Failure.Kind.status_ne_ok _
  | event =>
    obtain ⟨m, -, hreports⟩ := h
    exact hreports.status ▸ Failure.Kind.status_ne_ok _
  | data =>
    obtain ⟨cause, hreports⟩ := h
    exact hreports.status ▸ Failure.Kind.status_ne_ok _

/-- A callback that is answered with success has come to the handler of its event, and its answer
alters nothing of the case that was sent, whoever the collaborators are. -/
theorem respond_echoes (today : Date) {r : Request} {segment : List Char}
    (hroute : Route.ofPath (path r.target) = .callback segment)
    (hok : (w.run s (respond (.standard today) r)).result.status = 200) :
    ∃ c h event answer, r.Reaches today segment c h ∧ event ∈ handledEvents ∧
      c.request.eventId = event.name ∧
      (w.run s (respond (.standard today) r)).result.Gives (.ok answer) ∧
      answer.Echoes r today event c := by
  by_cases hmethod : r.method = "POST"
  · rcases respond_cases today hroute hmethod with
      ⟨o, -, answer, hanswers, hrespond⟩ | ⟨c, h, hreaches, hrespond⟩
    · rw [hrespond] at hok
      exact absurd hok hanswers.status_ne_ok
    · obtain ⟨event, hevent, hname⟩ := hreaches.event
      rw [hrespond, Collaborators.run_map] at hok ⊢
      cases hresult : (w.run s (h.handle c).run).result with
      | error failure =>
        simp only [Account.map, hresult] at hok
        exact absurd hok failure.kind.status_ne_ok
      | ok answer =>
        obtain rfl := CallbackHandler.eq_success w s hreaches.handler hevent hresult
        refine ⟨c, h, event, _, hreaches, mem_handledEvents hreaches.handler hevent, hname, ?_,
          c.echoes_success today event hreaches.message⟩
        simp only [Account.map, hresult]
        exact gives_ofOutcome _
  · simp only [respond, hroute, hmethod, ne_eq, not_false_eq_true, if_true] at hok
    cases hok

end

/-- The submission of a decision page, with a stale reference, a `null` and an empty list in its
data. -/
def decisionSubmission : Request where
  method := "POST"
  target := "/cases/callbacks/about-to-submit"
  contentType := some "application/json"
  body := "\x7b\"event_id\":\"MAKE_DECISION\",\"case_details\":\x7b\"id\":1111222233334444," ++
    "\"data\":\x7b\"ccdCaseReference\":7,\"hearingNotes\":null,\"documents\":[]\x7d\x7d\x7d"

/-- All of it is in the answer. -/
theorem respond_echoes_decisionSubmission :
    let x := (Platform.collaborators .none).run .vacant
      (respond (.standard ⟨2024, 1, 1, by decide⟩) decisionSubmission)
    ∃ answer data, x.result.Gives (.ok answer) ∧ answer.data = some data ∧
      data.toJson = .object
        [("ccdCaseReference", .ofInt 7), ("documents", .array []), ("hearingNotes", .null)] := by
  intro x
  have hroute : Route.ofPath (path decisionSubmission.target) =
      .callback "about-to-submit".toList := by decide +kernel
  have hok : x.result.status = 200 := by decide +kernel
  obtain ⟨c, h, event, answer, hreaches, -, -, hgives, hechoes⟩ :=
    respond_echoes (Platform.collaborators .none) .vacant ⟨2024, 1, 1, by decide⟩ hroute hok
  have hstage : c.stage = .aboutToSubmit := by
    have hname : decodePart? (String.ofList "about-to-submit".toList) =
        some "about-to-submit" := decodePart?_eq_self (by decide)
    have hsame := Option.some.inj (hreaches.segment.symm.trans hname)
    exact Option.some.inj ((CallbackStage.ofName?_eq_some_iff.2 hsame).symm.trans (by decide))
  obtain ⟨data, hdata⟩ := Option.isSome_iff_exists.1 (hechoes.present.2 (.inl hstage))
  refine ⟨answer, data, hgives, hdata, ?_⟩
  have hvalue : decisionSubmission.sentData?.map (·.toJson.toOption) = some (some (.object
      [("ccdCaseReference", .ofInt 7), ("documents", .array []), ("hearingNotes", .null)])) := by
    decide +kernel
  obtain ⟨t, ht, hjson⟩ := Option.map_eq_some_iff.1 hvalue
  have hsends := hechoes.sent data hdata
  simp only [Http.Request.Sends, ht] at hsends
  rw [hsends] at hjson
  exact Option.some.inj hjson

end GeneralApplications

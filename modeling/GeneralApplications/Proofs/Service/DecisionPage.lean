import GeneralApplications.Proofs.Decision.Unselected
import GeneralApplications.Proofs.Service.Metadata

/-!
# The deadline that was not chosen on the decision page

An order for written representations that reaches the decision page may hold a value in the place of
the deadline that was not chosen. No deadline is taken from it, but it has to be a date: otherwise
there is no order, and without an order the page fails (`respond_withOrder_error`). Between values
with the same fault, and between those without any, neither the order nor the answer makes a
difference (`unselected_deadline_iff`).
-/

namespace GeneralApplications

open Http
open Json (Codec Object Rejection)
open WrittenRepresentations (deadlineKey dateFault?)

/-- The callback with an order for written representations in its case data. -/
def CallbackRequest.withOrder (m : CallbackRequest) (t : Json) : CallbackRequest :=
  { m with snapshot := m.snapshot.withOrder t }

/-- The answer to the callback of a decision page: its case data are at fault, or they are given
back with the findings about the deadlines. -/
def CallbackRequest.pageAnswer (today : Date) (m : CallbackRequest) : Response :=
  ofOutcome (m.snapshot.toRecord.map fun record =>
    .withErrors m.snapshot.data ((record.deadlineFindings today).map (·.message)))

theorem Http.Response.status_withoutData (answer : Response) :
    answer.withoutData.status = answer.status := by
  unfold withoutData
  split <;> rfl

section
variable {today : Date} {m n : CallbackRequest} {r r' : Request} {t u : Json}

theorem respond_decisionPage (hevent : m.eventId = CaseEvent.makeDecision.name)
    (hread : r.callback? = some (CallbackStage.mid.name, m)) :
    respond (.standard today) r = .done (m.pageAnswer today) := by
  have hhandler : (CallbackRegistry.standard today).handlerFor? CaseEvent.makeDecision.name =
      some (.decisionPage today) := rfl
  rw [respond_of_read today hread, run_callback_eq, hevent, hhandler,
    CallbackStage.ofName?_eq_some_iff.2 rfl]
  unfold CallbackRequest.pageAnswer
  cases m.snapshot.toRecord <;> rfl

/-- But for the data that it gives back, the answer is made of the record. -/
theorem pageAnswer_congr (h : m.snapshot.toRecord = n.snapshot.toRecord) :
    (m.pageAnswer today).withoutData = (n.pageAnswer today).withoutData := by
  unfold CallbackRequest.pageAnswer
  rw [withoutData_ofOutcome, withoutData_ofOutcome, h]
  cases n.snapshot.toRecord <;> rfl

/-- Two decision pages with orders that are decoded alike are answered alike. -/
theorem respond_withOrder (hevent : m.eventId = CaseEvent.makeDecision.name)
    (hread : r.callback? = some (CallbackStage.mid.name, m.withOrder t))
    (hread' : r'.callback? = some (CallbackStage.mid.name, m.withOrder u))
    (ht : t ≠ .null) (hu : u ≠ .null)
    (h : (WrittenRepresentations.codec : Codec Json WrittenRepresentations).decode t =
      (WrittenRepresentations.codec : Codec Json WrittenRepresentations).decode u) :
    ∃ answer answer', respond (.standard today) r = .done answer ∧
      respond (.standard today) r' = .done answer' ∧ answer.status = answer'.status ∧
      answer.withoutData = answer'.withoutData := by
  have hsame : ((m.withOrder t).pageAnswer today).withoutData =
      ((m.withOrder u).pageAnswer today).withoutData :=
    pageAnswer_congr (CaseSnapshot.toRecord_withOrder ht hu h)
  have hstatus := congrArg Response.status hsame
  rw [Response.status_withoutData, Response.status_withoutData] at hstatus
  exact ⟨_, _, respond_decisionPage (m := m.withOrder t) hevent hread,
    respond_decisionPage (m := m.withOrder u) hevent hread', hstatus, hsame⟩

/-- A decision page with an order that is none is a bad request. -/
theorem respond_withOrder_error {fault : Rejection}
    (hevent : m.eventId = CaseEvent.makeDecision.name)
    (hread : r.callback? = some (CallbackStage.mid.name, m.withOrder t)) (ht : t ≠ .null)
    (h : (WrittenRepresentations.codec : Codec Json WrittenRepresentations).decode t =
      .error fault) :
    ∃ answer, respond (.standard today) r = .done answer ∧ answer.status = 400 := by
  obtain ⟨failure, hrecord⟩ : ∃ failure, (m.withOrder t).snapshot.toRecord = .error failure :=
    CaseSnapshot.toRecord_withOrder_error ht h
  obtain ⟨cause, rfl⟩ := CaseSnapshot.exists_shape_of_toRecord hrecord
  refine ⟨_, respond_decisionPage (m := m.withOrder t) hevent hread, ?_⟩
  unfold CallbackRequest.pageAnswer
  rw [hrecord]
  rfl

end

/-- An order for written representations with a manner, and two values, or none, in the place of
the deadline that was not chosen. The order is the same for both, or fails alike, exactly if the
same is wrong with both as dates; except that a concurrent order whose own deadline is no date fails
for that one. To fail alike is to fail at the same place with the same words; the words alone are
also the same where a sequential order's own deadline has the fault of the value. Two decision pages
with orders that are the same are answered with the same status and, but for the data that is given
back, the same body; one with an order that fails is a bad request. -/
theorem unselected_deadline_iff {o : Object} {w : Json} {manner : Manner}
    (hw : o.get? "writtenOption" = some w)
    (hmanner : (Manner.codec : Codec Json Manner).decode w = .ok manner) (v v' : Option Json) :
    let order (v : Option Json) : Json := (o.put (deadlineKey manner.other) v).toJson
    let decoded (v : Option Json) : Except Rejection WrittenRepresentations :=
      WrittenRepresentations.codec.decode (order v)
    (decoded v = decoded v' ↔ dateFault? v = dateFault? v' ∨
      (manner = .concurrent ∧ dateFault? (o.get? (deadlineKey manner)) ≠ none)) ∧
    ∀ (today : Date) (m : CallbackRequest) (r r' : Request),
      m.eventId = CaseEvent.makeDecision.name →
      r.callback? = some (CallbackStage.mid.name, m.withOrder (order v)) →
      r'.callback? = some (CallbackStage.mid.name, m.withOrder (order v')) →
      (decoded v = decoded v' → ∃ answer answer', respond (.standard today) r = .done answer ∧
        respond (.standard today) r' = .done answer' ∧ answer.status = answer'.status ∧
        answer.withoutData = answer'.withoutData) ∧
      ∀ fault, decoded v = .error fault →
        ∃ answer, respond (.standard today) r = .done answer ∧ answer.status = 400 := by
  intro order decoded
  refine ⟨WrittenRepresentations.decode_put_eq_iff hw hmanner v v', ?_⟩
  intro today m r r' hevent hread hread'
  refine ⟨fun hsame => ?_, fun fault hfault => ?_⟩
  · exact respond_withOrder hevent hread hread' nofun nofun hsame
  · exact respond_withOrder_error hevent hread nofun hfault

/-- A decision page with a sequential order, with the text of some members behind its manner. -/
def decisionPageWith (members : String) : Request where
  method := "POST"
  target := "/cases/callbacks/mid"
  contentType := some "application/json"
  body := "\x7b\"event_id\":\"MAKE_DECISION\",\"case_details\":\x7b\"id\":1111222233334444," ++
    "\"data\":\x7b\"judicialDecisionMakeOrderForWrittenRepresentations\":" ++
    "\x7b\"writtenOption\":\"SEQUENTIAL_REPRESENTATIONS\"" ++ members ++ "\x7d\x7d\x7d\x7d"

/-- The callback of a decision page without an order. -/
def decisionPageMessage : CallbackRequest where
  eventId := "MAKE_DECISION"
  snapshot :=
    { id := ⟨1111222233334444, (by decide : 1 ≤ 1111222233334444),
        (by decide : 1111222233334444 < 2 ^ 63)⟩
      jurisdiction := none
      caseType := none
      state := none
      data := ∅ }
  before := none

/-- A sequential order with a value in the place of the other deadline, or with none. -/
def sequentialOrder (v : Option Json) : Json :=
  ((Object.ofMembers [("writtenOption", .string "SEQUENTIAL_REPRESENTATIONS")]).put
    (deadlineKey .concurrent) v).toJson

theorem callback?_decisionPageWith_none : (decisionPageWith "").callback? =
    some (CallbackStage.mid.name, decisionPageMessage.withOrder (sequentialOrder none)) := by
  decide +kernel

/-- A date that has passed makes no difference in the place of the deadline that was not chosen. -/
theorem unselected_deadline_past :
    (WrittenRepresentations.codec : Codec Json WrittenRepresentations).decode
        (sequentialOrder none) =
      WrittenRepresentations.codec.decode (sequentialOrder (some (.string "1999-12-31"))) ∧
    ∃ answer answer',
      respond (.standard ⟨2024, 1, 1, by decide⟩) (decisionPageWith "") = .done answer ∧
      respond (.standard ⟨2024, 1, 1, by decide⟩)
        (decisionPageWith ",\"writtenConcurrentRepresentationsBy\":\"1999-12-31\"") =
          .done answer' ∧
      answer.status = answer'.status ∧ answer.withoutData = answer'.withoutData := by
  obtain ⟨hiff, hpage⟩ := unselected_deadline_iff
    (o := .ofMembers [("writtenOption", .string "SEQUENTIAL_REPRESENTATIONS")])
    (w := .string "SEQUENTIAL_REPRESENTATIONS") rfl rfl none (some (.string "1999-12-31"))
  have hsame := hiff.2 (.inl (by decide +kernel))
  refine ⟨hsame, (hpage _ decisionPageMessage _ _ rfl callback?_decisionPageWith_none ?_).1 hsame⟩
  decide +kernel

/-- A text that is no date does: the order is sound without it and fails with it, and so does the
page. -/
theorem unselected_deadline_soon :
    (WrittenRepresentations.codec : Codec Json WrittenRepresentations).decode
        (sequentialOrder none) ≠
      WrittenRepresentations.codec.decode (sequentialOrder (some (.string "soon"))) ∧
    ∃ answer answer',
      respond (.standard ⟨2024, 1, 1, by decide⟩) (decisionPageWith "") = .done answer ∧
      respond (.standard ⟨2024, 1, 1, by decide⟩)
        (decisionPageWith ",\"writtenConcurrentRepresentationsBy\":\"soon\"") = .done answer' ∧
      answer.status = 200 ∧ answer'.status = 400 := by
  have hread : (decisionPageWith
      ",\"writtenConcurrentRepresentationsBy\":\"soon\"").callback? =
        some (CallbackStage.mid.name,
          decisionPageMessage.withOrder (sequentialOrder (some (.string "soon")))) := by
    decide +kernel
  refine ⟨by decide +kernel, _, _, respond_decisionPage rfl callback?_decisionPageWith_none,
    respond_decisionPage rfl hread, ?_, ?_⟩
  · decide +kernel
  · decide +kernel

end GeneralApplications

import GeneralApplications.Case.Record
import GeneralApplications.Proofs.Json.Fields

/-!
# The fields of case data

For every record that case data is made of: its fields, and that its wire form consists of them.
All but the order for written representations hold each field as it was read. That order has two
fields for its deadline, of which the record holds the one of its manner.
-/

namespace GeneralApplications

open Json

/-! ## Closed records -/

/-- The fields of an entry. -/
def Entry.fields {α : Type} (c : Codec Json α) : List (RecordField (Entry α)) :=
  [.optional "id" (·.id) .string, .required "value" (·.value) c]

theorem Entry.isRecord {α : Type} (c : Codec Json α) :
    (Entry.codec c).IsRecord (Entry.fields c) := by
  refine ⟨_, _, rfl, ⟨⟨rfl, fun _ => rfl⟩, fun fs s => ?_⟩,
    .of_names (show ["id", "value"].Nodup by decide) rfl⟩
  simp only [Layout.read_seq_eq_ok, Layout.read_map_eq_ok, fields, List.forall_mem_cons]
  constructor
  · rintro ⟨_, ⟨a, ha, rfl⟩, b, hb, rfl⟩
    exact ⟨ha, hb, by simp⟩
  · rintro ⟨ha, hb, _⟩
    exact ⟨_, ⟨_, ha, rfl⟩, _, hb, rfl⟩

/-- The field of a link. -/
def CaseLink.fields : List (RecordField CaseLink) :=
  [.optional "CaseReference" (·.reference) .string]

theorem CaseLink.isRecord : (CaseLink.codec : Codec Json CaseLink).IsRecord CaseLink.fields := by
  refine ⟨_, _, rfl, ⟨⟨rfl, fun _ => rfl⟩, fun fs s => ?_⟩, .of_names (by decide) rfl⟩
  simp only [Layout.read_map_eq_ok, fields, List.forall_mem_cons]
  constructor
  · rintro ⟨a, ha, rfl⟩
    exact ⟨ha, by simp⟩
  · rintro ⟨ha, _⟩
    exact ⟨_, ha, rfl⟩

/-- The fields of a notice. -/
def Notice.fields : List (RecordField Notice) :=
  [.optional "isWithNotice" (·.withNotice) YesNo.codec,
   .optional "reasonForWithoutNotice" (·.reasonWithout) .string]

theorem Notice.isRecord : (Notice.codec : Codec Json Notice).IsRecord Notice.fields := by
  refine ⟨_, _, rfl, ⟨⟨rfl, fun _ => rfl⟩, fun fs s => ?_⟩, .of_names (by decide) rfl⟩
  simp only [Layout.read_seq_eq_ok, Layout.read_map_eq_ok, fields, List.forall_mem_cons]
  constructor
  · rintro ⟨_, ⟨a, ha, rfl⟩, b, hb, rfl⟩
    exact ⟨ha, hb, by simp⟩
  · rintro ⟨ha, hb, _⟩
    exact ⟨_, ⟨_, ha, rfl⟩, _, hb, rfl⟩

/-- The fields of a legal representative. -/
def Solicitor.fields : List (RecordField Solicitor) :=
  [.optional "id" (·.id) .string, .optional "email" (·.email) .string,
   .optional "organisationIdentifier" (·.organisation) .string]

theorem Solicitor.isRecord :
    (Solicitor.codec : Codec Json Solicitor).IsRecord Solicitor.fields := by
  refine ⟨_, _, rfl, ⟨⟨rfl, fun _ => rfl⟩, fun fs s => ?_⟩, .of_names (by decide) rfl⟩
  simp only [Layout.read_seq_eq_ok, Layout.read_map_eq_ok, fields, List.forall_mem_cons]
  constructor
  · rintro ⟨_, ⟨_, ⟨a, ha, rfl⟩, b, hb, rfl⟩, c, hc, rfl⟩
    exact ⟨ha, hb, hc, by simp⟩
  · rintro ⟨ha, hb, hc, _⟩
    exact ⟨_, ⟨_, ⟨_, ha, rfl⟩, _, hb, rfl⟩, _, hc, rfl⟩

/-- The field of a judge's decision. -/
def JudicialDecision.fields : List (RecordField JudicialDecision) :=
  [.required "decision" (·.ruling) Ruling.codec]

theorem JudicialDecision.isRecord :
    (JudicialDecision.codec : Codec Json JudicialDecision).IsRecord JudicialDecision.fields := by
  refine ⟨_, _, rfl, ⟨⟨rfl, fun _ => rfl⟩, fun fs s => ?_⟩, .of_names (by decide) rfl⟩
  simp only [Layout.read_map_eq_ok, fields, List.forall_mem_cons]
  constructor
  · rintro ⟨a, ha, rfl⟩
    exact ⟨ha, by simp⟩
  · rintro ⟨ha, _⟩
    exact ⟨_, ha, rfl⟩

/-- The fields of a request for more information. -/
def InformationRequest.fields : List (RecordField InformationRequest) :=
  [.required "requestMoreInfoOption" (·.action) InformationRequest.Action.codec,
   .optional "judgeRequestMoreInfoText" (·.question) .string,
   .optional "judgeRequestMoreInfoByDate" (·.deadline) Date.codec]

theorem InformationRequest.isRecord :
    (InformationRequest.codec : Codec Json InformationRequest).IsRecord
      InformationRequest.fields := by
  refine ⟨_, _, rfl, ⟨⟨rfl, fun _ => rfl⟩, fun fs s => ?_⟩, .of_names (by decide) rfl⟩
  simp only [Layout.read_seq_eq_ok, Layout.read_map_eq_ok, fields, List.forall_mem_cons]
  constructor
  · rintro ⟨_, ⟨_, ⟨a, ha, rfl⟩, b, hb, rfl⟩, c, hc, rfl⟩
    exact ⟨ha, hb, hc, by simp⟩
  · rintro ⟨ha, hb, hc, _⟩
    exact ⟨_, ⟨_, ⟨_, ha, rfl⟩, _, hb, rfl⟩, _, hc, rfl⟩

namespace WrittenRepresentations

/-- The key under which the deadline of a manner stands. -/
def deadlineKey : Manner → String
  | .sequential => "writtenSequentialRepresentationsBy"
  | .concurrent => "writtenConcurrentRepresentationsBy"

/-- The field for the deadline of one manner. It must be readable also if the order is in the other
manner, but then the record does not hold what was read. -/
def deadlineField (manner : Manner) : RecordField WrittenRepresentations where
  place := Layout.place (deadlineKey manner) [] (readOption (Date.codec (τ := Json)).decode)
  Reads fs s := ∃ d,
    (Layout.optional (deadlineKey manner) (deadlineIf manner) (Date.codec : Codec Json Date)).read
      fs = .ok d ∧
      (s.manner = manner → s.deadline = d)
  write s := (deadlineIf manner s).map (Date.codec (τ := Json)).encode

/-- The fields of an order for written representations. -/
def fields : List (RecordField WrittenRepresentations) :=
  [.required "writtenOption" (·.manner) Manner.codec, deadlineField .sequential,
   deadlineField .concurrent]

theorem isRecord :
    (codec : Codec Json WrittenRepresentations).IsRecord WrittenRepresentations.fields := by
  refine ⟨_, _, rfl, ⟨⟨rfl, fun _ => rfl⟩, fun fs s => ?_⟩, .of_names (by decide) rfl⟩
  simp only [Layout.read_seq_eq_ok, Layout.read_map_eq_ok, fields, List.forall_mem_cons]
  constructor
  · rintro ⟨_, ⟨_, ⟨m, hm, rfl⟩, a, ha, rfl⟩, b, hb, rfl⟩
    cases m with
    | sequential => exact ⟨hm, ⟨a, ha, fun _ => rfl⟩, ⟨b, hb, nofun⟩, by simp⟩
    | concurrent => exact ⟨hm, ⟨a, ha, nofun⟩, ⟨b, hb, fun _ => rfl⟩, by simp⟩
  · obtain ⟨m, d⟩ := s
    rintro ⟨hm, ⟨a, ha, hda⟩, ⟨b, hb, hdb⟩, _⟩
    refine ⟨_, ⟨_, ⟨m, hm, rfl⟩, a, ha, rfl⟩, b, hb, ?_⟩
    cases m with
    | sequential =>
      obtain rfl : d = a := hda rfl
      rfl
    | concurrent =>
      obtain rfl : d = b := hdb rfl
      rfl

end WrittenRepresentations

/-! ## Open records -/

/-- The fields of a summary. -/
def ApplicationSummary.fields : List (RecordField ApplicationSummary) :=
  [.optional "generalApplicationType" (·.type) .string,
   .optional "caseLink" (·.link) CaseLink.codec,
   .optional "caseState" (·.state) .string,
   .optional "parentClaimantIsApplicant" (·.claimantApplies) YesNo.codec]

theorem ApplicationSummary.isOpenRecord :
    (ApplicationSummary.codec : Codec Json ApplicationSummary).IsOpenRecord (·.rest) id
      ApplicationSummary.fields := by
  refine ⟨_, _, rfl, ⟨⟨rfl, fun _ => rfl⟩, ?_, ?_⟩, .of_names (by decide) rfl, rfl⟩
  · intro fs build h o
    simp only [Layout.read_seq_eq_ok, Layout.read_map_eq_ok] at h
    obtain ⟨_, ⟨_, ⟨_, ⟨a, ha, rfl⟩, b, hb, rfl⟩, c, hc, rfl⟩, d, hd, rfl⟩ := h
    simp only [fields, List.forall_mem_cons]
    exact ⟨trivial, ha, hb, hc, hd, by simp⟩
  · intro fs s h
    simp only [fields, List.forall_mem_cons] at h
    obtain ⟨ha, hb, hc, hd, _⟩ := h
    simp only [Layout.read_seq_eq_ok, Layout.read_map_eq_ok]
    exact ⟨_, ⟨_, ⟨_, ⟨_, ⟨_, ha, rfl⟩, _, hb, rfl⟩, _, hc, rfl⟩, _, hd, rfl⟩, rfl⟩

/-- The fields of a case record. -/
def CaseRecord.fields : List (RecordField CaseRecord) :=
  [.optional "ccdCaseReference" (·.reference) CaseReference.codec,
   .optional "ccdState" (·.state) .string,
   .optional "generalAppParentCaseLink" (·.parentLink) CaseLink.codec,
   .optional "applicationIsUncloakedOnce" (·.uncloaked) YesNo.codec,
   .optional "generalAppInformOtherParty" (·.notice) Notice.codec,
   .collection "generalAppRespondentSolicitors" (·.solicitors) (Entry.codec Solicitor.codec),
   .optional "judicialDecision" (·.decision) JudicialDecision.codec,
   .optional "judicialDecisionMakeOrderForWrittenRepresentations" (·.writtenRepresentations)
     WrittenRepresentations.codec,
   .optional "judicialDecisionRequestMoreInfo" (·.informationRequest) InformationRequest.codec,
   .collection "generalApplicationsDetails" (·.applications)
     (Entry.codec ApplicationSummary.codec),
   .collection "gaDetailsRespondentSol" (·.respondentView)
     (Entry.codec ApplicationSummary.codec)]

theorem CaseRecord.respondentView_mem_fields :
    RecordField.collection "gaDetailsRespondentSol" (·.respondentView)
      (Entry.codec ApplicationSummary.codec) ∈ fields := by
  simp [fields]

/-- The record without the list of cleared fields, which is no part of its wire form. -/
def CaseRecord.wire (c : CaseRecord) : CaseRecord :=
  { c with cleared := [] }

theorem CaseRecord.isOpenRecord :
    (CaseRecord.codec : Codec Json CaseRecord).IsOpenRecord (·.rest) CaseRecord.wire
      CaseRecord.fields := by
  refine ⟨_, _, rfl, ⟨⟨rfl, fun _ => rfl⟩, ?_, ?_⟩, .of_names (by decide) rfl, rfl⟩
  · intro fs build h o
    simp only [layout, Layout.read_seq_eq_ok, Layout.read_map_eq_ok] at h
    obtain ⟨_, ⟨_, ⟨_, ⟨_, ⟨_, ⟨_, ⟨_, ⟨_, ⟨_, ⟨_, ⟨a, ha, rfl⟩, b, hb, rfl⟩, c, hc, rfl⟩, d, hd,
      rfl⟩, e, he, rfl⟩, f, hf, rfl⟩, g, hg, rfl⟩, i, hi, rfl⟩, j, hj, rfl⟩, k, hk, rfl⟩, l, hl,
      rfl⟩ := h
    simp only [fields, List.forall_mem_cons]
    exact ⟨trivial, ha, hb, hc, hd, he, hf, hg, hi, hj, hk, hl, by simp⟩
  · intro fs s h
    simp only [fields, List.forall_mem_cons] at h
    obtain ⟨ha, hb, hc, hd, he, hf, hg, hi, hj, hk, hl, _⟩ := h
    simp only [layout, Layout.read_seq_eq_ok, Layout.read_map_eq_ok]
    exact ⟨_, ⟨_, ⟨_, ⟨_, ⟨_, ⟨_, ⟨_, ⟨_, ⟨_, ⟨_, ⟨_, ⟨_, ha, rfl⟩, _, hb, rfl⟩, _, hc, rfl⟩, _, hd,
      rfl⟩, _, he, rfl⟩, _, hf, rfl⟩, _, hg, rfl⟩, _, hi, rfl⟩, _, hj, rfl⟩, _, hk, rfl⟩, _, hl,
      rfl⟩, rfl⟩

end GeneralApplications

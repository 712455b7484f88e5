import GeneralApplications.Proofs.Case.RoundTrip
import GeneralApplications.Proofs.Json.Retention

/-!
# What rewriting keeps of case data

For every record that case data is made of: which scalars survive when it is read and written
again. Links, notices, representatives, decisions and entries are closed, so that members which
they do not know are lost; summaries and the case data itself are open and keep them. Dates are
kept if they were written in the form in which this service writes them.

The main result is `CaseRecord.retains`.
-/

namespace GeneralApplications

open Json

/-! ## Scalars -/

/-- A date is kept if its text is the one that it is written with. -/
def Date.retention : Retention := fun j _ =>
  ∃ s d, j = .string s ∧ Date.ofText s = .ok d ∧ d.text = s

theorem Date.retains : (Date.codec : Codec Json Date).Retains Date.retention := by
  intro j d h path v hv
  cases j with
  | string s =>
    have hd : Date.ofText s = .ok d := mapError_eq_ok_iff.1 h
    obtain ⟨rfl, rfl⟩ := (holds_iff_of_isScalar rfl).1 hv
    rw [Date.codec, holds_iff_of_isScalar rfl]
    constructor
    · rintro ⟨_, htext⟩
      exact ⟨s, d, rfl, hd, by simpa using htext.symm⟩
    · rintro ⟨s', d', hs, hd', htext⟩
      obtain rfl : s = s' := by simpa using hs
      obtain rfl : d = d' := Except.ok.inj (hd.symm.trans hd')
      simp [htext]
  | null => cases h
  | bool b => cases h
  | number n => cases h
  | array items => cases h
  | object members => cases h

/-- A reference is kept if it was written as a number. -/
def CaseReference.retention : Retention := fun j _ =>
  ∃ n, j = .number n

theorem CaseReference.retains :
    (CaseReference.codec : Codec Json CaseReference).Retains CaseReference.retention := by
  intro j r h path v hv
  have h : CaseReference.ofJson j = .ok r := mapError_eq_ok_iff.1 h
  cases j with
  | number n =>
    cases n with
    | int n =>
      obtain rfl : n = r.number := CaseReference.ofJson_int_eq_ok_iff.1 h
      exact ⟨fun _ => ⟨_, rfl⟩, fun _ => hv⟩
    | double x => cases h
  | string s =>
    obtain ⟨rfl, rfl⟩ := (holds_iff_of_isScalar rfl).1 hv
    constructor
    · intro hw
      have := ((holds_iff_of_isScalar rfl).1 hw).2
      simp [CaseReference.codec, Json.ofInt] at this
    · rintro ⟨n, hn⟩
      cases hn
  | null => cases h
  | bool b => cases h
  | array items => cases h
  | object members => cases h

/-! ## Closed records -/

/-- What is kept of a link. -/
def CaseLink.retention : Retention :=
  .record [("CaseReference", .all)]

theorem CaseLink.retains : (CaseLink.codec : Codec Json CaseLink).Retains CaseLink.retention :=
  retains_record CaseLink.isRecord (.cons ⟨rfl, retains_optional retains_string⟩ .nil)

/-- What is kept of a notice. -/
def Notice.retention : Retention :=
  .record [("isWithNotice", .all), ("reasonForWithoutNotice", .all)]

theorem Notice.retains : (Notice.codec : Codec Json Notice).Retains Notice.retention :=
  retains_record Notice.isRecord
    (.cons ⟨rfl, retains_optional retains_named⟩
      (.cons ⟨rfl, retains_optional retains_string⟩ .nil))

/-- What is kept of a legal representative. -/
def Solicitor.retention : Retention :=
  .record [("id", .all), ("email", .all), ("organisationIdentifier", .all)]

theorem Solicitor.retains : (Solicitor.codec : Codec Json Solicitor).Retains Solicitor.retention :=
  retains_record Solicitor.isRecord
    (.cons ⟨rfl, retains_optional retains_string⟩
      (.cons ⟨rfl, retains_optional retains_string⟩
        (.cons ⟨rfl, retains_optional retains_string⟩ .nil)))

/-- What is kept of an entry, by what is kept of its value. -/
def Entry.retention (r : Retention) : Retention :=
  .record [("id", .all), ("value", r)]

theorem Entry.retains {α : Type} {c : Codec Json α} {r : Retention} (hc : c.Retains r) :
    (Entry.codec c).Retains (Entry.retention r) :=
  retains_record (Entry.isRecord c)
    (.cons ⟨rfl, retains_optional retains_string⟩ (.cons ⟨rfl, retains_required hc⟩ .nil))

/-- What is kept of a judge's decision. -/
def JudicialDecision.retention : Retention :=
  .record [("decision", .all)]

theorem JudicialDecision.retains :
    (JudicialDecision.codec : Codec Json JudicialDecision).Retains JudicialDecision.retention :=
  retains_record JudicialDecision.isRecord (.cons ⟨rfl, retains_required retains_named⟩ .nil)

/-- What is kept of a request for more information. -/
def InformationRequest.retention : Retention :=
  .record [("requestMoreInfoOption", .all), ("judgeRequestMoreInfoText", .all),
    ("judgeRequestMoreInfoByDate", Date.retention)]

theorem InformationRequest.retains :
    (InformationRequest.codec : Codec Json InformationRequest).Retains
      InformationRequest.retention :=
  retains_record InformationRequest.isRecord
    (.cons ⟨rfl, retains_required retains_named⟩
      (.cons ⟨rfl, retains_optional retains_string⟩
        (.cons ⟨rfl, retains_optional Date.retains⟩ .nil)))

namespace WrittenRepresentations

/-- What is kept of an order for written representations in a given manner: of the two deadlines
only the one of that manner. -/
def retentionOf (manner : Manner) : List (String × Retention) :=
  [("writtenOption", .all),
   (deadlineKey .sequential, fun j path => manner = .sequential ∧ Date.retention j path),
   (deadlineKey .concurrent, fun j path => manner = .concurrent ∧ Date.retention j path)]

/-- What is kept of an order for written representations. -/
def retention : Retention := fun j path =>
  ∃ t manner, child? (.key "writtenOption") j = some t ∧
    (Manner.codec : Codec Json Manner).decode t = .ok manner ∧
      Retention.record (retentionOf manner) j path

/-- The deadline of a manner is written if the order is in that manner. -/
theorem retainsAt_deadlineField {manner : Manner} {members : List (String × Json)}
    {s : WrittenRepresentations} (hread : (deadlineField manner).Reads (.ofMembers members) s) :
    (deadlineField manner).RetainsAt members s
      fun j path => s.manner = manner ∧ Date.retention j path := by
  intro t ht path v hv
  obtain ⟨d, hd, hdeadline⟩ := hread
  -- As a field of its own it would keep what dates keep.
  have hown : (RecordField.optional (deadlineKey manner) (fun d : Option Date => d)
      Date.codec).RetainsAt members d Date.retention :=
    retains_optional Date.retains (show (Layout.optional (deadlineKey manner) (fun d => d)
      Date.codec).read (.ofMembers members) = .ok d from hd)
  by_cases hm : s.manner = manner
  · simp only [RecordField.Holds, deadlineField, deadlineIf, hm, true_and, hdeadline hm]
    exact hown ht hv
  · simp [RecordField.Holds, deadlineField, deadlineIf, hm]

theorem retains : (codec : Codec Json WrittenRepresentations).Retains retention := by
  refine retains_record_at isRecord ?_ ?_
  · intro members s hread hlookup
    simp only [fields, List.forall_mem_cons] at hread hlookup
    obtain ⟨hm, hseq, hconc, _⟩ := hread
    refine ⟨retentionOf s.manner, .cons ⟨rfl, retains_required retains_named hm⟩
      (.cons ⟨rfl, retainsAt_deadlineField hseq⟩
        (.cons ⟨rfl, retainsAt_deadlineField hconc⟩ .nil)), fun path => ?_⟩
    obtain ⟨t, ht, hdec⟩ := RecordField.reads_required_iff.1 hm
    have hchild : child? (.key "writtenOption") (.object members) = some t :=
      hlookup.1.symm.trans ht
    constructor
    · rintro ⟨t', manner, ht', hdec', hkeep⟩
      obtain rfl : t = t' := Option.some.inj (hchild.symm.trans ht')
      obtain rfl : s.manner = manner := Except.ok.inj (hdec.symm.trans hdec')
      exact hkeep
    · intro hkeep
      exact ⟨t, s.manner, hchild, hdec, hkeep⟩
  · rintro items path ⟨_, _, ht, _⟩
    simp [child?] at ht

end WrittenRepresentations

/-! ## Open records -/

/-- What is kept of a summary. -/
def ApplicationSummary.retention : Retention :=
  .openRecord [("generalApplicationType", .all), ("caseLink", CaseLink.retention),
    ("caseState", .all), ("parentClaimantIsApplicant", .all)]

theorem ApplicationSummary.retains :
    (ApplicationSummary.codec : Codec Json ApplicationSummary).Retains
      ApplicationSummary.retention :=
  retains_openRecord ApplicationSummary.isOpenRecord
    (.cons ⟨rfl, retains_optional retains_string⟩
      (.cons ⟨rfl, retains_optional CaseLink.retains⟩
        (.cons ⟨rfl, retains_optional retains_string⟩
          (.cons ⟨rfl, retains_optional retains_named⟩ .nil))))

/-- What is kept of case data. -/
def CaseRecord.retention : Retention :=
  .openRecord [("ccdCaseReference", CaseReference.retention), ("ccdState", .all),
    ("generalAppParentCaseLink", CaseLink.retention), ("applicationIsUncloakedOnce", .all),
    ("generalAppInformOtherParty", Notice.retention),
    ("generalAppRespondentSolicitors", .list (Entry.retention Solicitor.retention)),
    ("judicialDecision", JudicialDecision.retention),
    ("judicialDecisionMakeOrderForWrittenRepresentations", WrittenRepresentations.retention),
    ("judicialDecisionRequestMoreInfo", InformationRequest.retention),
    ("generalApplicationsDetails", .list (Entry.retention ApplicationSummary.retention)),
    ("gaDetailsRespondentSol", .list (Entry.retention ApplicationSummary.retention))]

theorem CaseRecord.retains :
    (CaseRecord.codec : Codec Json CaseRecord).Retains CaseRecord.retention :=
  retains_openRecord CaseRecord.isOpenRecord
    (.cons ⟨rfl, retains_optional CaseReference.retains⟩
      (.cons ⟨rfl, retains_optional retains_string⟩
        (.cons ⟨rfl, retains_optional CaseLink.retains⟩
          (.cons ⟨rfl, retains_optional retains_named⟩
            (.cons ⟨rfl, retains_optional Notice.retains⟩
              (.cons ⟨rfl, retains_collection (Entry.retains Solicitor.retains)⟩
                (.cons ⟨rfl, retains_optional JudicialDecision.retains⟩
                  (.cons ⟨rfl, retains_optional WrittenRepresentations.retains⟩
                    (.cons ⟨rfl, retains_optional InformationRequest.retains⟩
                      (.cons ⟨rfl, retains_collection (Entry.retains ApplicationSummary.retains)⟩
                        (.cons
                          ⟨rfl, retains_collection (Entry.retains ApplicationSummary.retains)⟩
                          .nil)))))))))))

end GeneralApplications

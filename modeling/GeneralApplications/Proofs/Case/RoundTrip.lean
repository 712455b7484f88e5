import GeneralApplications.Proofs.Calendar.Text
import GeneralApplications.Proofs.Case.Apart
import GeneralApplications.Proofs.Json.RoundTrip

/-!
# Reading case data back

References, links and summaries of applications are read back from what is written for them. For a
summary this needs that its further members are apart from its fields, as they are in every summary
that was read.
-/

namespace GeneralApplications

open Json

theorem CaseReference.ofJson_int_eq_ok_iff {n : Int} {r : CaseReference} :
    CaseReference.ofJson (.number (.int n)) = .ok r ↔ n = r.number := by
  have hpos := r.positive
  have hlt := r.bounded
  have hback : n = r.number → ofNat? n.toNat = some r := fun hn =>
    ofNat?_eq_some_iff.2 (by omega)
  simp only [CaseReference.ofJson]
  split
  next h =>
    split
    next r' hr' =>
      have hnum := ofNat?_eq_some_iff.1 hr'
      constructor
      · rintro ⟨⟩
        omega
      · intro hn
        rw [Option.some.inj (hr'.symm.trans (hback hn))]
    next hnone =>
      constructor
      · rintro ⟨⟩
      · intro hn
        cases hnone.symm.trans (hback hn)
  next h =>
    constructor
    · rintro ⟨⟩
    · intro hn
      omega

theorem CaseReference.decode_codec (j : Json) :
    (CaseReference.codec : Codec Json CaseReference).decode j = (ofJson j).mapError .here := rfl

/-- A reference is read back from its number. -/
theorem CaseReference.roundTrips (r : CaseReference) :
    (CaseReference.codec : Codec Json CaseReference).RoundTrips r := by
  have hwrite : (CaseReference.codec : Codec Json CaseReference).encode r =
      .number (.int r.number) := rfl
  rw [Codec.RoundTrips, decode_codec, hwrite]
  exact ⟨nofun, mapError_eq_ok_iff.2 (ofJson_int_eq_ok_iff.2 rfl)⟩

theorem Date.roundTrips (d : Date) : (Date.codec : Codec Json Date).RoundTrips d :=
  ⟨nofun, mapError_eq_ok_iff.2 (Date.ofText_text d)⟩

theorem YesNo.roundTrips (a : YesNo) : (YesNo.codec : Codec Json YesNo).RoundTrips a :=
  roundTrips_named (by decide) (by cases a <;> decide)

/-! ## Parts -/

theorem CaseLink.roundTrips (l : CaseLink) :
    (CaseLink.codec : Codec Json CaseLink).RoundTrips l :=
  roundTrips_record (.of_names (by decide) rfl)
    (.map (.optional fun s _ => roundTrips_string s) _)

theorem Notice.roundTrips (n : Notice) : (Notice.codec : Codec Json Notice).RoundTrips n :=
  roundTrips_record (.of_names (by decide) rfl)
    (.seq (.map (.optional fun a _ => a.roundTrips) _)
      (.optional fun s _ => roundTrips_string s))

theorem Solicitor.roundTrips (s : Solicitor) :
    (Solicitor.codec : Codec Json Solicitor).RoundTrips s :=
  roundTrips_record (.of_names (by decide) rfl)
    (.seq (.seq (.map (.optional fun s _ => roundTrips_string s) _)
      (.optional fun s _ => roundTrips_string s))
      (.optional fun s _ => roundTrips_string s))

/-- An entry is read back if its value is. -/
theorem Entry.roundTrips {α : Type} {c : Codec Json α} {e : Entry α} (h : c.RoundTrips e.value) :
    (Entry.codec c).RoundTrips e :=
  roundTrips_record (.of_names (show ["id", "value"].Nodup by decide) rfl)
    (.seq (.map (.optional fun s _ => roundTrips_string s) _) (.required h))

theorem ApplicationSummary.roundTrips {s : ApplicationSummary} (h : s.Apart) :
    (ApplicationSummary.codec : Codec Json ApplicationSummary).RoundTrips s :=
  ⟨nofun, decode_encode_openRecord rfl (.of_names (by decide) rfl) rfl
    (.seq (.seq (.seq (.map (.optional fun t _ => roundTrips_string t) _)
      (.optional fun l _ => l.roundTrips))
      (.optional fun t _ => roundTrips_string t))
      (.optional fun a _ => a.roundTrips)) h⟩

/-! ## Decisions -/

theorem Ruling.roundTrips (r : Ruling) : (Ruling.codec : Codec Json Ruling).RoundTrips r :=
  roundTrips_named (by decide) (by cases r <;> decide)

theorem JudicialDecision.roundTrips (d : JudicialDecision) :
    (JudicialDecision.codec : Codec Json JudicialDecision).RoundTrips d :=
  roundTrips_record (.of_names (by decide) rfl) (.map (.required d.ruling.roundTrips) _)

theorem Manner.roundTrips (m : Manner) : (Manner.codec : Codec Json Manner).RoundTrips m :=
  roundTrips_named (by decide) (by cases m <;> decide)

/-- Of the two deadlines of an order the one of its manner is selected again. -/
theorem WrittenRepresentations.select_deadlineIf (d : WrittenRepresentations) :
    select d.manner (deadlineIf .sequential d) (deadlineIf .concurrent d) = d := by
  obtain ⟨manner, deadline⟩ := d
  cases manner <;> rfl

theorem WrittenRepresentations.roundTrips (d : WrittenRepresentations) :
    (codec : Codec Json WrittenRepresentations).RoundTrips d :=
  roundTrips_record (.of_names (by decide) rfl)
    (.of_eq d.select_deadlineIf
      (.seq (.seq (.map (.required d.manner.roundTrips) _)
        (.optional fun d _ => d.roundTrips))
        (.optional fun d _ => d.roundTrips)))

theorem InformationRequest.Action.roundTrips (a : InformationRequest.Action) :
    (codec : Codec Json InformationRequest.Action).RoundTrips a :=
  roundTrips_named (by decide) (by cases a <;> decide)

theorem InformationRequest.roundTrips (r : InformationRequest) :
    (codec : Codec Json InformationRequest).RoundTrips r :=
  roundTrips_record (.of_names (by decide) rfl)
    (.seq (.seq (.map (.required r.action.roundTrips) _)
      (.optional fun t _ => roundTrips_string t))
      (.optional fun d _ => d.roundTrips))

/-! ## Case data -/

/-- The layout restores a record but for what its wire form does not hold. -/
theorem CaseRecord.restores {c : CaseRecord} (h : c.Apart) :
    (layout : Layout Json CaseRecord (Object → CaseRecord)).Restores c
      fun rest => { c with rest := rest, cleared := [] } :=
  .seq (.seq (.seq (.seq (.seq (.seq (.seq (.seq (.seq (.seq (.map
    (.optional fun r _ => r.roundTrips) _)
    (.optional fun s _ => roundTrips_string s))
    (.optional fun l _ => l.roundTrips))
    (.optional fun a _ => a.roundTrips))
    (.optional fun n _ => n.roundTrips))
    (.collection fun e _ => Entry.roundTrips e.value.roundTrips))
    (.optional fun d _ => d.roundTrips))
    (.optional fun d _ => d.roundTrips))
    (.optional fun r _ => r.roundTrips))
    (.collection fun e he => Entry.roundTrips (ApplicationSummary.roundTrips
      (h.applications e he))))
    (.collection fun e he => Entry.roundTrips (ApplicationSummary.roundTrips
      (h.respondentView e he)))

theorem CaseRecord.layout_distinct :
    Distinct (layout : Layout Json CaseRecord (Object → CaseRecord)).places :=
  .of_names (by decide) rfl

/-- Of a record all is read back but the list of cleared fields. -/
theorem CaseRecord.decode_encode {c : CaseRecord} (h : c.Apart) :
    (codec : Codec Json CaseRecord).decode ((codec : Codec Json CaseRecord).encode c) =
      .ok c.wire :=
  decode_encode_openRecord rfl layout_distinct rfl (restores h) h.rest

end GeneralApplications

import GeneralApplications.Callback.Message
import GeneralApplications.Config.Flags
import GeneralApplications.Failure
import GeneralApplications.Proofs.Case.RoundTrip

/-!
# Stable wire forms

Whatever spelling a value of the service's interface was accepted in, it is read back from what is
written for it (`WireType.decode_encode_of_decode`); so writing and reading change nothing from then
on. Most of these values are read back in any case. Case records and summaries of applications
keep members that they do not know, and are read back because none of these has the name of a field.
-/

namespace GeneralApplications

open Json

/-! ## What is exchanged with the platform -/

theorem CaseEvent.roundTrips (e : CaseEvent) :
    (CaseEvent.codec : Codec Json CaseEvent).RoundTrips e :=
  roundTrips_named (fun _ _ _ _ h => name_injective h) e.mem_all

theorem EventDescription.roundTrips (d : EventDescription) :
    (EventDescription.codec : Codec Json EventDescription).RoundTrips d :=
  roundTrips_record (.of_names (by decide) rfl)
    (.seq (.seq (.map (.required d.id.roundTrips) _)
      (.optional fun s _ => roundTrips_string s))
      (.optional fun s _ => roundTrips_string s))

/-- A snapshot is written under the first of the two names for its data. -/
theorem CaseSnapshot.roundTrips (s : CaseSnapshot) :
    (CaseSnapshot.codec : Codec Json CaseSnapshot).RoundTrips s :=
  roundTrips_record ⟨by decide, by decide⟩
    (.seq (.seq (.seq (.seq (.map (.required s.id.roundTrips) _)
      (.optional fun t _ => roundTrips_string t))
      (.optional fun t _ => roundTrips_string t))
      (.optional fun t _ => roundTrips_string t))
      (.defaulted (roundTrips_object s.data)))

theorem StartedEvent.roundTrips (e : StartedEvent) :
    (StartedEvent.codec : Codec Json StartedEvent).RoundTrips e :=
  roundTrips_record (.of_names (by decide) rfl)
    (.seq (.seq (.map (.required (roundTrips_string e.token)) _)
      (.required e.snapshot.roundTrips))
      (.optional fun t _ => roundTrips_string t))

theorem EventSubmission.roundTrips (e : EventSubmission) :
    (EventSubmission.codec : Codec Json EventSubmission).RoundTrips e :=
  roundTrips_record (.of_names (by decide) rfl)
    (.seq (.seq (.seq (.map (.required (roundTrips_string e.token)) _)
      (.required e.event.roundTrips))
      (.required (roundTrips_object e.data)))
      (.defaulted (roundTrips_bool e.ignoreWarning)))

theorem CallbackRequest.roundTrips (m : CallbackRequest) :
    (CallbackRequest.codec : Codec Json CallbackRequest).RoundTrips m :=
  roundTrips_record (.of_names (by decide) rfl)
    (.seq (.seq (.map (.required (roundTrips_string m.eventId)) _)
      (.required m.snapshot.roundTrips))
      (.optional fun s _ => s.roundTrips))

theorem CallbackResponse.roundTrips (r : CallbackResponse) :
    (CallbackResponse.codec : Codec Json CallbackResponse).RoundTrips r :=
  roundTrips_record (.of_names (by decide) rfl)
    (.seq (.seq (.seq (.seq (.seq (.map (.optional fun o _ => roundTrips_object o) _)
      (.defaulted (roundTrips_list fun t _ => roundTrips_string t)))
      (.defaulted (roundTrips_list fun t _ => roundTrips_string t)))
      (.optional fun t _ => roundTrips_string t))
      (.optional fun t _ => roundTrips_string t))
      (.optional fun t _ => roundTrips_string t))

/-! ## Failures and settings -/

theorem Failure.Kind.roundTrips (k : Failure.Kind) :
    (Codec.named Kind.all Kind.name : Codec Json Failure.Kind).RoundTrips k :=
  roundTrips_named (by decide) (by cases k <;> decide)

theorem Failure.roundTrips (f : Failure) : (Failure.codec : Codec Json Failure).RoundTrips f :=
  roundTrips_record (.of_names (by decide) rfl)
    (.seq (.seq (.map (.required f.kind.roundTrips) _)
      (.required (roundTrips_string f.message)))
      (.optional fun t _ => roundTrips_string t))

theorem FeatureFlags.roundTrips (f : FeatureFlags) :
    (FeatureFlags.codec : Codec Json FeatureFlags).RoundTrips f :=
  roundTrips_record (.of_names (by decide) rfl)
    (.seq (.map (.defaulted (roundTrips_bool f.mailgun)) _)
      (.defaulted (roundTrips_bool f.jsonLogs)))

theorem Configuration.roundTrips (c : Configuration) :
    (Configuration.codec : Codec Json Configuration).RoundTrips c :=
  roundTrips_record (.of_names (by decide) rfl) (.map (.defaulted c.features.roundTrips) _)

/-! ## All wire forms -/

/-- The types of the service's interface that have a wire form. -/
inductive WireType where
  | caseReference
  | solicitorEntry
  | applicationEntry
  | caseLink
  | notice
  | solicitor
  | applicationSummary
  | caseRecord
  | caseSnapshot
  | startedEvent
  | eventDescription
  | eventSubmission
  | callbackRequest
  | callbackResponse
  | writtenRepresentations
  | informationRequest
  | judicialDecision
  | failure
  | featureFlags
  | configuration
  deriving DecidableEq, Repr

namespace WireType

/-- The values of a type. -/
abbrev Value : WireType → Type
  | caseReference => CaseReference
  | solicitorEntry => Entry Solicitor
  | applicationEntry => Entry ApplicationSummary
  | caseLink => CaseLink
  | notice => Notice
  | solicitor => Solicitor
  | applicationSummary => ApplicationSummary
  | caseRecord => CaseRecord
  | caseSnapshot => CaseSnapshot
  | startedEvent => StartedEvent
  | eventDescription => EventDescription
  | eventSubmission => EventSubmission
  | callbackRequest => CallbackRequest
  | callbackResponse => CallbackResponse
  | writtenRepresentations => WrittenRepresentations
  | informationRequest => InformationRequest
  | judicialDecision => JudicialDecision
  | failure => Failure
  | featureFlags => FeatureFlags
  | configuration => Configuration

/-- The wire form of a type. -/
def codec {τ : Type} [Readable τ] : (w : WireType) → Codec τ w.Value
  | caseReference => CaseReference.codec
  | solicitorEntry => Entry.codec Solicitor.codec
  | applicationEntry => Entry.codec ApplicationSummary.codec
  | caseLink => CaseLink.codec
  | notice => Notice.codec
  | solicitor => Solicitor.codec
  | applicationSummary => ApplicationSummary.codec
  | caseRecord => CaseRecord.codec
  | caseSnapshot => CaseSnapshot.codec
  | startedEvent => StartedEvent.codec
  | eventDescription => EventDescription.codec
  | eventSubmission => EventSubmission.codec
  | callbackRequest => CallbackRequest.codec
  | callbackResponse => CallbackResponse.codec
  | writtenRepresentations => WrittenRepresentations.codec
  | informationRequest => InformationRequest.codec
  | judicialDecision => JudicialDecision.codec
  | failure => Failure.codec
  | featureFlags => FeatureFlags.codec
  | configuration => Configuration.codec

/-- A value of the interface that was read, from a value or from a text and in whatever spelling, is
read back from what is written for it. -/
theorem decode_encode_of_decode (w : WireType) {τ : Type} [Readable τ] {t : τ} {v : w.Value}
    (h : w.codec.decode t = .ok v) :
    (w.codec : Codec Json w.Value).decode ((w.codec : Codec Json w.Value).encode v) = .ok v := by
  cases w with
  | caseReference => exact (CaseReference.roundTrips v).2
  | solicitorEntry => exact (Entry.roundTrips v.value.roundTrips).2
  | applicationEntry =>
    obtain ⟨t', hvalue⟩ := Entry.exists_decode_value h
    have hapart := ApplicationSummary.apart_of_decode hvalue
    exact (Entry.roundTrips (ApplicationSummary.roundTrips hapart)).2
  | caseLink => exact (CaseLink.roundTrips v).2
  | notice => exact (Notice.roundTrips v).2
  | solicitor => exact (Solicitor.roundTrips v).2
  | applicationSummary =>
    exact (ApplicationSummary.roundTrips (ApplicationSummary.apart_of_decode h)).2
  | caseRecord =>
    obtain ⟨hapart, hcleared⟩ := CaseRecord.apart_of_decode h
    have hwire : CaseRecord.wire v = v := by rw [CaseRecord.wire, ← hcleared]
    have hback := CaseRecord.decode_encode hapart
    rwa [hwire] at hback
  | caseSnapshot => exact (CaseSnapshot.roundTrips v).2
  | startedEvent => exact (StartedEvent.roundTrips v).2
  | eventDescription => exact (EventDescription.roundTrips v).2
  | eventSubmission => exact (EventSubmission.roundTrips v).2
  | callbackRequest => exact (CallbackRequest.roundTrips v).2
  | callbackResponse => exact (CallbackResponse.roundTrips v).2
  | writtenRepresentations => exact (WrittenRepresentations.roundTrips v).2
  | informationRequest => exact (InformationRequest.roundTrips v).2
  | judicialDecision => exact (JudicialDecision.roundTrips v).2
  | failure => exact (Failure.roundTrips v).2
  | featureFlags => exact (FeatureFlags.roundTrips v).2
  | configuration => exact (Configuration.roundTrips v).2

/-- A snapshot given as the list of its fields, with its reference in groups of digits, is read back
from the object that is written for it. -/
theorem decode_encode_of_decode_grouped :
    let t : Json := .array [.string "1111-2222 3333-4444", .null, .string "GENERALAPPLICATION",
      .null, .object [("hearingNotes", .null)]]
    let s : CaseSnapshot :=
      { id := ⟨1111222233334444, by decide, by decide⟩
        jurisdiction := none
        caseType := some "GENERALAPPLICATION"
        state := none
        data := .ofMembers [("hearingNotes", .null)] }
    CaseSnapshot.codec.decode t = .ok s ∧
      (CaseSnapshot.codec : Codec Json CaseSnapshot).decode
        ((CaseSnapshot.codec : Codec Json CaseSnapshot).encode s) = .ok s := by
  intro t s
  have hread : (caseSnapshot.codec : Codec Json CaseSnapshot).decode t = .ok s := by decide +kernel
  exact ⟨hread, decode_encode_of_decode caseSnapshot hread⟩

end WireType

end GeneralApplications

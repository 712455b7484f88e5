import GeneralApplications.Proofs.Service.Session
import GeneralApplications.Proofs.Update.View

/-!
# Disclosure in a session

Which applications the respondents of the parent case see in the course of a session. An
application that they do not see at first is shown to them only by a successful callback at the end
of the judge's process on that very application, with data that says it has been uncloaked; what
they see they go on seeing; and no application comes to be shown twice (`session_discloses`).
-/

namespace GeneralApplications

open Json

/-- The case data says that the application has been uncloaked. -/
def CaseSnapshot.SaysUncloaked (s : CaseSnapshot) : Prop :=
  ∃ j, s.data.get? "applicationIsUncloakedOnce" = some j ∧
    (YesNo.codec : Codec Json YesNo).decode j = .ok .yes

theorem CaseSnapshot.saysUncloaked_of_toRecord {s : CaseSnapshot} {c : CaseRecord}
    (h : s.toRecord = .ok c) (hc : c.isUncloaked = true) : s.SaysUncloaked := by
  have huncloaked : c.uncloaked = some .yes := by simpa [CaseRecord.isUncloaked] using hc
  have hf : RecordField.optional "applicationIsUncloakedOnce" (·.uncloaked) YesNo.codec ∈
      CaseRecord.fields := by simp [CaseRecord.fields]
  rcases RecordField.reads_optional_iff.1 (reads_of_toRecord h hf) with ⟨_, hnone⟩ | ⟨j, hj, hread⟩
  · rw [huncloaked] at hnone
    cases hnone
  · refine ⟨j, ?_, ?_⟩
    · rw [← get?_recordObject (by decide)]
      exact hj
    · by_cases hnull : j = .null
      · subst hnull
        rw [huncloaked] at hread
        cases hread
      · rw [readOption_json hnull, map_eq_ok_iff, huncloaked] at hread
        obtain ⟨a, ha, hyes⟩ := hread
        rw [ha, Option.some.inj hyes]

/-- How many entries of the respondents' view on the platform's parent are about an application. -/
def Platform.showings (p : Platform) (c : CaseReference) : Nat :=
  match p.parent with
  | some s => entriesAbout c s.view
  | none => 0

/-- The turn is that of a successful callback at the end of the judge's process on an application
that has been uncloaked. -/
structure Turn.Discloses (x : Turn) (c : CaseReference) (m : CallbackRequest) : Prop where
  success : x.response.status = 200
  callback : x.visit.request.IsCallback .aboutToSubmit .endJudgeProcess m
  application : m.snapshot.id = c
  uncloaked : m.snapshot.SaysUncloaked

/-- A turn shows an application as often as before, or it discloses it, and shows it once. -/
theorem Turn.Course.showings {x : Turn} (h : x.Course) (c : CaseReference) :
    x.after.showings c = x.before.showings c ∨
      ((∃ m, x.Discloses c m) ∧ x.before.showings c = 0 ∧ x.after.showings c = 1) := by
  cases h with
  | quiet herrands hafter => exact .inl (by rw [hafter])
  | notified hm herrands hafter => exact .inl (by rw [hafter])
  | abandoned h herrands hparent => exact .inl (by rw [Platform.showings, hparent]; rfl)
  | refused h hafter => exact .inl (by simp only [Platform.showings, hafter, h.parent])
  | @recorded m child state r s data h hstatus hafter =>
    simp only [Platform.showings, hafter, h.parent]
    rcases CaseSnapshot.entriesAbout_recording h.recording c with hsame | ⟨hu, hc, hnone, hone⟩
    · exact .inl hsame
    · exact .inr ⟨⟨m, hstatus, h.callback, hc.symm,
        CaseSnapshot.saysUncloaked_of_toRecord h.asks.record hu⟩, hnone, hone⟩

namespace Session

/-- What a session in which the parent is not replaced does to the entries about an application:
their number stays the same, or it goes up from none to one in a turn that discloses the
application. -/
theorem showings_after {p : Platform} {visits : List Visit}
    (h : ∀ v ∈ visits, v.replacement = none) (c : CaseReference) :
    (after p visits).showings c = p.showings c ∨
      ((∃ x ∈ log p visits, ∃ m, x.Discloses c m) ∧ p.showings c = 0 ∧
        (after p visits).showings c = 1) := by
  induction visits generalizing p with
  | nil => exact .inl rfl
  | cons v visits ih =>
    have hbefore : (v.turn p).before = p := by
      simp only [Visit.turn, Visit.platform, h v (by simp)]
    have hturn := (v.course p).showings c
    rw [hbefore] at hturn
    have hafter : after p (v :: visits) = after (v.turn p).after visits := rfl
    rw [hafter]
    rcases ih (p := (v.turn p).after) fun w hw => h w (by simp [hw]) with
      hrest | ⟨⟨x, hx, hdiscloses⟩, hnone, hone⟩
    · rw [hrest]
      rcases hturn with hsame | ⟨hdiscloses, hnone, hone⟩
      · exact .inl hsame
      · exact .inr ⟨⟨_, List.mem_cons_self .., hdiscloses⟩, hnone, hone⟩
    · rcases hturn with hsame | ⟨_, _, hshown⟩
      · exact .inr ⟨⟨x, List.mem_cons_of_mem _ hx, hdiscloses⟩, by omega, hone⟩
      · omega

theorem after_append (p : Platform) (visits more : List Visit) :
    after p (visits ++ more) = after (after p visits) more :=
  List.foldl_append

end Session

/-- In a session in which the parent case is not replaced: the respondents see an application at
the end only if they saw it at the beginning or a turn of the session disclosed it; what they see
at some time they see at the end; and there are at most as many entries about an application as at
the beginning, or one. -/
theorem session_discloses {p : Platform} {visits : List Visit}
    (h : ∀ v ∈ visits, v.replacement = none) (c : CaseReference) :
    (0 < (Session.after p visits).showings c →
      0 < p.showings c ∨ ∃ x ∈ Session.log p visits, ∃ m, x.Discloses c m) ∧
    (∀ n, 0 < (Session.after p (visits.take n)).showings c →
      0 < (Session.after p visits).showings c) ∧
    (Session.after p visits).showings c ≤ max 1 (p.showings c) := by
  have hall := Session.showings_after h c (p := p)
  refine ⟨fun hshown => ?_, fun n hshown => ?_, ?_⟩
  · rcases hall with hsame | ⟨hdiscloses, _, _⟩
    · exact .inl (by omega)
    · exact .inr hdiscloses
  · have hdrop : ∀ v ∈ visits.drop n, v.replacement = none := fun v hv =>
      h v (List.mem_of_mem_drop hv)
    have hrest := Session.showings_after (p := Session.after p (visits.take n)) hdrop c
    rw [← Session.after_append, List.take_append_drop] at hrest
    omega
  · omega

/-- A parent case whose respondents see no application yet. -/
def cloakedParent : CaseSnapshot where
  id := ⟨8888777766665555, by decide, by decide⟩
  jurisdiction := none
  caseType := none
  state := some "JUDICIAL_REFERRAL"
  data := .ofMembers
    [("generalApplicationsDetails", .array
      [.object [("id", .string "summary-child"), ("value", .object
        [("caseLink", .object [("CaseReference", .string "1111222233334444")])])]])]

/-- The end of the judge's process on the application of that case, which has been uncloaked. -/
def uncloakingVisit : Visit where
  replacement := none
  disruption := .none
  today := ⟨2024, 1, 1, by decide⟩
  request :=
    { method := "POST"
      target := "/cases/callbacks/about-to-submit"
      contentType := some "application/json"
      body := "\x7b\"event_id\":\"END_JUDGE_BUSINESS_PROCESS_GASPEC\",\"case_details\":" ++
        "\x7b\"id\":1111222233334444,\"state\":\"ORDER_MADE\",\"case_data\":" ++
        "\x7b\"applicationIsUncloakedOnce\":\"Yes\",\"generalAppParentCaseLink\":" ++
        "\x7b\"CaseReference\":\"8888777766665555\"\x7d\x7d\x7d\x7d" }

/-- The application is hidden before that visit and is shown by it. -/
theorem session_discloses_uncloaked :
    let p : Platform := ⟨some cloakedParent, 0⟩
    let c : CaseReference := ⟨1111222233334444, by decide, by decide⟩
    p.showings c = 0 ∧ ∃ x ∈ Session.log p [uncloakingVisit], ∃ m, x.Discloses c m := by
  intro p c
  have hhidden : p.showings c = 0 := by decide +kernel
  have hshown : 0 < (Session.after p [uncloakingVisit]).showings c := by decide +kernel
  have hkept : ∀ v ∈ [uncloakingVisit], v.replacement = none := by simp [uncloakingVisit]
  rcases (session_discloses hkept c).1 hshown with hbefore | hdiscloses
  · omega
  · exact ⟨hhidden, hdiscloses⟩

end GeneralApplications

import GeneralApplications.Proofs.Platform.Run
import GeneralApplications.Proofs.Update.Procedure
import GeneralApplications.Proofs.Update.State

/-!
# What an update keeps of a parent's data

An update reads the whole of a parent's data and writes it back. Leaving aside what it may change
(`Rewritten`), the data that it submits holds of the scalars of the parent's data exactly those
that `CaseRecord.retention` names (`run_updateParent_holds_iff`). Members of closed records are not
among them (`run_updateParent_loses_forename`).
-/

namespace GeneralApplications

open Json

/-- Of the parent's data a recording keeps the scalars that case data keeps, as far as it may not
change them. -/
theorem CaseSnapshot.holds_recording_iff {s : CaseSnapshot} {parent : CaseRecord}
    (hs : s.toRecord = .ok parent) {child : CaseReference} {state : String} {uncloaked : Bool}
    {data : Object} (hdata : s.recording child state uncloaked = .ok data) {path : List Step}
    {v : Json} (hv : s.data.toJson.Holds path v) (hp : ¬ Rewritten parent child path) :
    data.toJson.Holds path v ↔ CaseRecord.retention s.data.toJson path := by
  obtain ⟨parent', hs', rfl⟩ := recording_eq_ok_iff.1 hdata
  obtain rfl : parent = parent' := Except.ok.inj (hs.symm.trans hs')
  obtain ⟨k, below, t, rfl, ht, hbelow⟩ := holds_toJson_iff.1 hv
  have hk : k ∉ CaseRecord.envelopeKeys := fun hk => hp (.envelope hk)
  -- A path that leads into the respondents' view of the data stays within its bounds.
  have hin : ∀ i rest, (.key k :: below : List Step) =
      .key "gaDetailsRespondentSol" :: .index i :: rest → i < parent.respondentView.length := by
    intro i rest he
    obtain ⟨hkey, rfl⟩ : k = "gaDetailsRespondentSol" ∧ below = .index i :: rest := by
      simpa using he
    obtain ⟨item, hitem, _⟩ := holds_cons_iff.1 hbelow
    cases t with
    | array items =>
      have hlen := (forall₂_respondentView hs).length_eq
      rw [Object.items, ← hkey, ht] at hlen
      obtain ⟨hlt, _⟩ := List.getElem?_eq_some_iff.1 hitem
      exact hlen ▸ hlt
    | null => cases hitem
    | bool b => cases hitem
    | number n => cases hitem
    | string s => cases hitem
    | object members => cases hitem
  rw [CaseRecord.holds_toData_iff hk, CaseRecord.holds_withApplicationState_iff
    (apart_of_toRecord hs) hp hin]
  exact holds_object_of_toRecord hs hk hv

/-- An update of an application with a reference and a parent that can be read submits data that
holds, of the scalars of the parent's data which it may not change, exactly those that case data
keeps. -/
theorem run_updateParent_holds_iff {p : Platform} {s : CaseSnapshot} {parent child : CaseRecord}
    {c r : CaseReference} (state : String) (hp : p.parent = some s)
    (hs : s.toRecord = .ok parent) (hc : child.reference = some c) (hr : child.parent = some r) :
    ∃ content : EventSubmission,
      (Platform.run .none p (child.updateParent state).run).1 = .ok () ∧
      (Platform.run .none p (child.updateParent state).run).2.1 =
        [.start r .updateParentState, .submit r content] ∧
      ∀ path v, s.data.toJson.Holds path v → ¬ Rewritten parent c path →
        (content.data.toJson.Holds path v ↔ CaseRecord.retention s.data.toJson path) := by
  have hdata : s.recording c state child.isUncloaked =
      .ok (parent.withApplicationState c state child.isUncloaked).toData :=
    CaseSnapshot.recording_eq_ok_iff.2 ⟨parent, hs, rfl⟩
  rw [CaseRecord.run_updateParent hc hr, Platform.run_ask]
  have hstart : p.carryOut .none (.start r .updateParentState) =
      (.ok ⟨Platform.token (p.started + 1), s, none⟩, { p with started := p.started + 1 }) := by
    simp [Platform.carryOut, Disruption.none, hp]
  simp only [hstart, CaseRecord.finishUpdate, hdata, Platform.run_ask, Platform.run_done]
  refine ⟨_, ?_, rfl, fun path v hv hpath => ?_⟩
  · simp [Platform.carryOut, Disruption.none, hp, Except.map]
  · exact CaseSnapshot.holds_recording_iff hs hdata hv hpath

/-- A parent case of which the platform knows more than this service: the first name of a
respondent's solicitor and who chose the application's type. -/
def parentWithMore : CaseSnapshot where
  id := ⟨9999888877776666, by decide, by decide⟩
  jurisdiction := none
  caseType := none
  state := some "JUDICIAL_REFERRAL"
  data := .ofMembers
    [("claimant1PartyName", .string "Ada Claimant"),
     ("generalAppRespondentSolicitors", .array
       [.object [("id", .string "sol-1"), ("value", .object
         [("email", .string "rae@example.com"), ("forename", .string "Rae")])]]),
     ("generalApplicationsDetails", .array
       [.object [("id", .string "summary-child"), ("value", .object
         [("caseLink", .object [("CaseReference", .string "1111222233334444")]),
          ("caseState", .string "AWAITING_JUDICIAL_DECISION"),
          ("typeChosenBy", .string "judge")])]])]

/-- An application on that case. -/
def childOfParent : CaseRecord :=
  { CaseRecord.empty with
    reference := some ⟨1111222233334444, by decide, by decide⟩
    parentLink := some ⟨some "9999888877776666"⟩ }

/-- An update may change a path only if an envelope key or the key of a state is on it. -/
theorem Rewritten.mem {parent : CaseRecord} {child : CaseReference} {path : List Step}
    (h : Rewritten parent child path) :
    ∃ k ∈ "caseState" :: CaseRecord.envelopeKeys, .key k ∈ path := by
  cases h with
  | @envelope k _ hk => exact ⟨k, List.mem_cons_of_mem _ hk, by simp⟩
  | application he hlink => exact ⟨"caseState", by simp, by simp⟩
  | view he hlink => exact ⟨"caseState", by simp, by simp⟩

/-- The further member of a summary is kept. -/
theorem run_updateParent_holds_chooser :
    ∃ content : EventSubmission,
      (Platform.run .none ⟨some parentWithMore, 0⟩
          (childOfParent.updateParent "ORDER_MADE").run).2.1 =
        [.start parentWithMore.id .updateParentState, .submit parentWithMore.id content] ∧
      content.data.toJson.Holds
        [.key "generalApplicationsDetails", .index 0, .key "value", .key "typeChosenBy"]
        (.string "judge") := by
  have hp : (⟨some parentWithMore, 0⟩ : Platform).parent = some parentWithMore := rfl
  have hc : childOfParent.reference = some ⟨1111222233334444, by decide, by decide⟩ := rfl
  have hr : childOfParent.parent = some parentWithMore.id := rfl
  obtain ⟨content, _, herrands, hkeep⟩ := run_updateParent_holds_iff "ORDER_MADE" hp rfl hc hr
  refine ⟨content, herrands, (hkeep _ _ ⟨rfl, rfl⟩ fun h => ?_).2 ?_⟩
  · exact absurd h.mem (by decide)
  · exact .inr ⟨_, List.mem_of_getElem? (i := 9) rfl, _, rfl, _, rfl, _,
      List.mem_of_getElem? (i := 1) rfl, _, rfl, .inl (by decide)⟩

/-- The first name of a solicitor is lost, although an update may not change it: it is a member that
the record of a solicitor does not keep. -/
theorem run_updateParent_loses_forename :
    ∃ content : EventSubmission,
      (Platform.run .none ⟨some parentWithMore, 0⟩
          (childOfParent.updateParent "ORDER_MADE").run).2.1 =
        [.start parentWithMore.id .updateParentState, .submit parentWithMore.id content] ∧
      ∃ parent path, parentWithMore.toRecord = .ok parent ∧
        ¬ Rewritten parent ⟨1111222233334444, by decide, by decide⟩ path ∧
        parentWithMore.data.toJson.Holds path (.string "Rae") ∧
        ¬ content.data.toJson.Holds path (.string "Rae") := by
  refine ⟨_, rfl, _, [.key "generalAppRespondentSolicitors", .index 0, .key "value",
    .key "forename"], rfl, fun h => absurd h.mem (by decide), ⟨rfl, rfl⟩, fun h => ?_⟩
  cases h.2

end GeneralApplications

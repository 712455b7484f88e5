import GeneralApplications.Proofs.Update.Procedure
import GeneralApplications.Proofs.Update.State

/-!
# The respondents' view under updates

The respondents of a parent case see the applications that its view has entries about. An update
leaves the number of entries about an application as it is, or it shows an uncloaked application
that was not shown before, once (`entriesAbout_recording`). The view is counted in the data as it is
stored, so that it is read back after every update.
-/

namespace GeneralApplications

open Json

/-- The entries of the respondents' view, as far as they can be read. -/
def CaseSnapshot.view (s : CaseSnapshot) : List (Entry ApplicationSummary) :=
  (s.data.items "gaDetailsRespondentSol").filterMap fun j =>
    ((Entry.codec ApplicationSummary.codec).decode j).toOption

/-- How many of the entries are about an application. -/
def entriesAbout (c : CaseReference) (entries : List (Entry ApplicationSummary)) : Nat :=
  entries.countP (·.value.linksTo c)

/-! ## Reading the view back -/

theorem filterMap_decode {items : List Json} {entries : List (Entry ApplicationSummary)}
    (h : List.Forall₂ (fun j e => (Entry.codec ApplicationSummary.codec).decode j = .ok e)
      items entries) :
    items.filterMap (fun j => ((Entry.codec ApplicationSummary.codec).decode j).toOption) =
      entries := by
  induction h with
  | nil => rfl
  | cons hread _ ih => rw [List.filterMap_cons_some (by rw [hread]; rfl), ih]

/-- The view of a snapshot that can be read is that of its record. -/
theorem CaseSnapshot.view_of_toRecord {s : CaseSnapshot} {c : CaseRecord}
    (h : s.toRecord = .ok c) : s.view = c.respondentView :=
  filterMap_decode (forall₂_respondentView h)

/-- Written data has the entries of the record's view as items. -/
theorem CaseRecord.items_toData {c : CaseRecord} (ha : c.Apart) :
    c.toData.items "gaDetailsRespondentSol" =
      c.respondentView.map (Entry.codec (τ := Json) ApplicationSummary.codec).encode := by
  have hget : c.object.get? "gaDetailsRespondentSol" =
      if c.respondentView.isEmpty then none
      else some (.array
        (c.respondentView.map (Entry.codec (τ := Json) ApplicationSummary.codec).encode)) := by
    have hfield := get?_object respondentView_mem_fields c
    rwa [ha.rest _ respondentView_mem_fields, Option.none_or] at hfield
  rw [Object.items, get?_toData, if_neg (by decide), hget]
  by_cases he : c.respondentView.isEmpty
  · rw [if_pos he, List.isEmpty_iff.1 he]
    by_cases hk : "gaDetailsRespondentSol" ∈ c.cleared <;> simp [hk]
  · simp [he]

/-- The view of written data is that of the record. -/
theorem CaseSnapshot.view_toData {c : CaseRecord} (ha : c.Apart) (s : CaseSnapshot) :
    CaseSnapshot.view { s with data := c.toData } = c.respondentView := by
  have hback : List.Forall₂ (fun j e => (Entry.codec ApplicationSummary.codec).decode j = .ok e)
      (c.respondentView.map (Entry.codec (τ := Json) ApplicationSummary.codec).encode)
      c.respondentView := by
    rw [List.forall₂_map_left_iff, List.forall₂_same]
    exact fun e he => (Entry.roundTrips (ApplicationSummary.roundTrips (ha.respondentView e he))).2
  rw [view, CaseRecord.items_toData ha]
  exact filterMap_decode hback

/-! ## Counting -/

section
variable {child c : CaseReference} {state : String}

theorem ApplicationSummary.linksTo_settingState (s : ApplicationSummary) :
    (s.settingState child state).linksTo c = s.linksTo c := by
  unfold settingState
  split <;> rfl

theorem ApplicationSummary.linksTo_unique {s : ApplicationSummary} (h : s.linksTo child = true)
    (hc : s.linksTo c = true) : c = child := by
  simp only [linksTo, decide_eq_true_eq] at h hc
  exact Option.some.inj (hc.symm.trans h)

theorem entriesAbout_settingState (child c : CaseReference) (state : String)
    (entries : List (Entry ApplicationSummary)) :
    entriesAbout c (CaseRecord.settingState child state entries) = entriesAbout c entries := by
  simp only [entriesAbout, CaseRecord.settingState, List.countP_map]
  congr 1
  funext e
  exact ApplicationSummary.linksTo_settingState e.value

/-- An entry is disclosed only if none is shown about its application. -/
theorem disclosure_eq_some {applications view : List (Entry ApplicationSummary)}
    {e : Entry ApplicationSummary}
    (h : CaseRecord.disclosure child applications view = some e) :
    entriesAbout child view = 0 ∧ e.value.linksTo child = true ∧
      ∃ a ∈ applications, e.value = a.value := by
  unfold CaseRecord.disclosure at h
  split at h
  next => cases h
  next hnone =>
    obtain ⟨a, ha, rfl⟩ := Option.map_eq_some_iff.1 h
    have hlink : a.value.linksTo child = true :=
      List.find?_some (p := fun a : Entry ApplicationSummary => a.value.linksTo child) ha
    exact ⟨List.countP_eq_zero.2 (List.find?_eq_none.1 hnone), hlink, a,
      List.mem_of_find?_eq_some ha, rfl⟩

/-- What an update does to the number of entries about an application. -/
theorem entriesAbout_withApplicationState (parent : CaseRecord) (child : CaseReference)
    (state : String) (uncloaked : Bool) (c : CaseReference) :
    let view := (parent.withApplicationState child state uncloaked).respondentView
    entriesAbout c view = entriesAbout c parent.respondentView ∨
      (uncloaked = true ∧ c = child ∧ entriesAbout c parent.respondentView = 0 ∧
        entriesAbout c view = 1) := by
  intro view
  have hset := entriesAbout_settingState child c state parent.respondentView
  cases uncloaked with
  | false => exact .inl (by simpa [view, CaseRecord.withApplicationState] using hset)
  | true =>
    cases hshown : CaseRecord.disclosure child
        (CaseRecord.settingState child state parent.applications)
        (CaseRecord.settingState child state parent.respondentView) with
    | none => exact .inl (by simpa [view, CaseRecord.withApplicationState, hshown] using hset)
    | some e =>
      obtain ⟨hnone, hlink, _⟩ := disclosure_eq_some hshown
      have hcount : entriesAbout c view =
          entriesAbout c parent.respondentView + entriesAbout c [e] := by
        simp only [view, CaseRecord.withApplicationState, hshown, if_true, Option.toList_some]
        rw [← hset]
        exact List.countP_append
      by_cases hc : c = child
      · subst hc
        rw [hset] at hnone
        refine .inr ⟨rfl, rfl, hnone, ?_⟩
        rw [hcount, hnone]
        simp [entriesAbout, hlink]
      · have hother : entriesAbout c [e] = 0 := by
          refine List.countP_eq_zero.2 fun a ha hl => hc ?_
          obtain rfl : a = e := by simpa using ha
          exact ApplicationSummary.linksTo_unique hlink hl
        exact .inl (by rw [hcount, hother, Nat.add_zero])

theorem apart_settingState {entries : List (Entry ApplicationSummary)}
    (h : ∀ e ∈ entries, e.value.Apart) :
    ∀ e ∈ CaseRecord.settingState child state entries, e.value.Apart := by
  intro e he
  obtain ⟨a, ha, rfl⟩ := List.mem_map.1 he
  have hrest : (a.value.settingState child state).rest = a.value.rest := by
    unfold ApplicationSummary.settingState
    split <;> rfl
  exact (congrArg (Json.Apart ApplicationSummary.fields) hrest).mpr (h a ha)

/-- An update adds no further members to the record or its summaries. -/
theorem CaseRecord.Apart.withApplicationState {parent : CaseRecord} (h : parent.Apart)
    {uncloaked : Bool} : (parent.withApplicationState child state uncloaked).Apart where
  rest := h.rest
  applications := apart_settingState h.applications
  respondentView := by
    intro e he
    rcases List.mem_append.1 he with he | he
    · exact apart_settingState h.respondentView e he
    · cases uncloaked with
      | false => simp at he
      | true =>
        obtain ⟨_, _, a, ha, hvalue⟩ := disclosure_eq_some (Option.mem_toList.1 he)
        rw [hvalue]
        exact apart_settingState h.applications a ha

end

/-- Recording a state leaves the number of entries about an application in the view as it is, or
the application is the one that the state is recorded for, and it is shown for the first time. -/
theorem CaseSnapshot.entriesAbout_recording {s : CaseSnapshot} {child : CaseReference}
    {state : String} {uncloaked : Bool} {data : Object}
    (h : s.recording child state uncloaked = .ok data) (c : CaseReference) :
    entriesAbout c (CaseSnapshot.view { s with data := data }) = entriesAbout c s.view ∨
      (uncloaked = true ∧ c = child ∧ entriesAbout c s.view = 0 ∧
        entriesAbout c (CaseSnapshot.view { s with data := data }) = 1) := by
  obtain ⟨parent, hs, rfl⟩ := recording_eq_ok_iff.1 h
  rw [view_of_toRecord hs, view_toData (apart_of_toRecord hs).withApplicationState]
  exact entriesAbout_withApplicationState parent child state uncloaked c

end GeneralApplications

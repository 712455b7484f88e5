import GeneralApplications.Case.ApplicationState
import GeneralApplications.Proofs.Case.Conversion

/-!
# What a new application state leaves alone

Setting an application's state on its parent case changes the state of the entries about the
application and may append an entry to the respondents' view. Every other scalar of the record's
wire form is as it was (`holds_withApplicationState_iff`).
-/

namespace GeneralApplications

open Json

/-! ## Setting the state of one summary -/

section
variable {child : CaseReference} {state : String} {path : List Step} {v : Json}

/-- Setting the state of a summary leaves every other scalar of it alone, and the state too unless
the summary is about the application. -/
theorem ApplicationSummary.holds_settingState_iff {s : ApplicationSummary} (ha : s.Apart)
    (hp : path = [.key "caseState"] → s.linksTo child = false) :
    ((codec : Codec Json _).encode (s.settingState child state)).Holds path v ↔
      ((codec : Codec Json _).encode s).Holds path v := by
  by_cases hl : s.linksTo child = true
  · have hne : path ≠ [.key "caseState"] := fun he => by simp [hp he] at hl
    refine holds_openRecord_congr isOpenRecord ha (by simp [settingState, hl]) ?_
    simp only [fields, List.forall_mem_cons, settingState, hl, if_true]
    refine ⟨fun _ _ => .rfl, fun _ _ => .rfl, fun below he => ?_, fun _ _ => .rfl, by simp⟩
    have hbelow : below ≠ [] := fun hnil => hne (by rw [he, hnil, RecordField.name_optional])
    simp [RecordField.holds_optional_string_iff, hbelow]
  · simp [settingState, hl]

theorem Entry.holds_settingState_iff {e : Entry ApplicationSummary} (ha : e.value.Apart)
    (hp : path = [.key "value", .key "caseState"] → e.value.linksTo child = false) :
    ((Entry.codec (τ := Json) ApplicationSummary.codec).encode
        (e.map (·.settingState child state))).Holds path v ↔
      ((Entry.codec (τ := Json) ApplicationSummary.codec).encode e).Holds path v := by
  refine holds_record_congr (isRecord _) ?_
  simp only [fields, List.forall_mem_cons]
  refine ⟨fun _ _ => .rfl, fun below he => ?_, by simp⟩
  rw [RecordField.holds_required_iff, RecordField.holds_required_iff]
  exact ApplicationSummary.holds_settingState_iff ha fun hb => hp (by rw [he, hb]; rfl)

/-- Setting the state on a list of entries leaves every other scalar of it alone, except for what
is appended to the list. -/
theorem CaseRecord.holds_settingState_iff {name : String}
    {get : CaseRecord → List (Entry ApplicationSummary)} {c c' : CaseRecord}
    {more : List (Entry ApplicationSummary)}
    (hget : get c' = settingState child state (get c) ++ more)
    (ha : ∀ e ∈ get c, e.value.Apart)
    (hin : more = [] ∨ ∀ i rest, path = .index i :: rest → i < (get c).length)
    (hp : ∀ i e, path = [.index i, .key "value", .key "caseState"] → (get c)[i]? = some e →
      e.value.linksTo child = false) :
    (RecordField.collection name get (Entry.codec ApplicationSummary.codec)).Holds c' path v ↔
      (RecordField.collection name get (Entry.codec ApplicationSummary.codec)).Holds c path v := by
  rw [RecordField.holds_collection_iff, RecordField.holds_collection_iff, hget]
  -- Within its old bounds the new list has at each position the old entry with its state set.
  have hget? {i : Nat} {rest : List Step} (hpath : path = .index i :: rest) :
      (settingState child state (get c) ++ more)[i]? =
        (get c)[i]?.map (·.map (·.settingState child state)) := by
    rw [← List.getElem?_map]
    rcases hin with rfl | hin
    · rw [List.append_nil, settingState]
    · have hlt : i < (settingState child state (get c)).length := by
        simpa [settingState] using hin i rest hpath
      rw [List.getElem?_append_left hlt, settingState]
  have hset {i : Nat} {rest : List Step} {e : Entry ApplicationSummary}
      (hpath : path = .index i :: rest) (he : (get c)[i]? = some e) :
      ((Entry.codec (τ := Json) ApplicationSummary.codec).encode
          (e.map (·.settingState child state))).Holds rest v ↔
        ((Entry.codec (τ := Json) ApplicationSummary.codec).encode e).Holds rest v :=
    Entry.holds_settingState_iff (ha e (List.mem_of_getElem? he)) fun hrest =>
      hp i e (by rw [hpath, hrest]) he
  constructor
  · rintro ⟨i, rest, e', hpath, he', hv⟩
    rw [hget? hpath] at he'
    obtain ⟨e, he, rfl⟩ := Option.map_eq_some_iff.1 he'
    exact ⟨i, rest, e, hpath, he, (hset hpath he).1 hv⟩
  · rintro ⟨i, rest, e, hpath, he, hv⟩
    have he' := hget? hpath
    rw [he] at he'
    exact ⟨i, rest, _, hpath, he', (hset hpath he).2 hv⟩

end

/-! ## Setting the state on a parent case -/

/-- The paths into a parent's data that an update about `child` may change: what the envelope
decides, and the states of the entries about `child`. -/
inductive Rewritten (parent : CaseRecord) (child : CaseReference) : List Step → Prop
  | envelope {k : String} {path : List Step} (hk : k ∈ CaseRecord.envelopeKeys) :
      Rewritten parent child (.key k :: path)
  | application {i : Nat} {e : Entry ApplicationSummary} (he : parent.applications[i]? = some e)
      (hlink : e.value.linksTo child = true) :
      Rewritten parent child
        [.key "generalApplicationsDetails", .index i, .key "value", .key "caseState"]
  | view {i : Nat} {e : Entry ApplicationSummary} (he : parent.respondentView[i]? = some e)
      (hlink : e.value.linksTo child = true) :
      Rewritten parent child
        [.key "gaDetailsRespondentSol", .index i, .key "value", .key "caseState"]

/-- Of the wire form of a parent case an update leaves every scalar alone that it may not change,
within the old bounds of the respondents' view. -/
theorem CaseRecord.holds_withApplicationState_iff {parent : CaseRecord} (ha : parent.Apart)
    {child : CaseReference} {state : String} {uncloaked : Bool} {path : List Step} {v : Json}
    (hp : ¬ Rewritten parent child path)
    (hin : ∀ i rest, path = .key "gaDetailsRespondentSol" :: .index i :: rest →
      i < parent.respondentView.length) :
    (parent.withApplicationState child state uncloaked).object.toJson.Holds path v ↔
      parent.object.toJson.Holds path v := by
  have hunlinked {b : Bool} (h : b ≠ true) : b = false := by simpa using h
  refine holds_openRecord_congr isOpenRecord ha.rest rfl ?_
  simp only [fields, List.forall_mem_cons]
  refine ⟨fun _ _ => .rfl, fun _ _ => .rfl, fun _ _ => .rfl, fun _ _ => .rfl, fun _ _ => .rfl,
    fun _ _ => .rfl, fun _ _ => .rfl, fun _ _ => .rfl, fun _ _ => .rfl, ?_, ?_, by simp⟩
  · rintro below rfl
    refine holds_settingState_iff (List.append_nil _).symm ha.applications (.inl rfl) ?_
    rintro i e rfl he
    exact hunlinked fun hl => hp (.application he hl)
  · rintro below rfl
    refine holds_settingState_iff rfl ha.respondentView (.inr ?_) ?_
    · rintro i rest rfl
      exact hin i rest rfl
    · rintro i e rfl he
      exact hunlinked fun hl => hp (.view he hl)

end GeneralApplications

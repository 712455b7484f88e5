import GeneralApplications.Proofs.Case.Fields
import GeneralApplications.Proofs.Json.Decoding

/-!
# Further members

Summaries of applications and case records keep the members that they do not know. In every record
that was read, from a value or from a text, none of these has the name of a field
(`ApplicationSummary.apart_of_decode`, `CaseRecord.apart_of_decode`); so what the record writes for
its fields is not covered by them.
-/

namespace GeneralApplications

open Json

variable {τ : Type} [Readable τ] {α σ : Type}

/-! ## Summaries -/

/-- The further members of a summary are apart from its fields. -/
abbrev ApplicationSummary.Apart (s : ApplicationSummary) : Prop :=
  Json.Apart ApplicationSummary.fields s.rest

theorem ApplicationSummary.apart_of_decode {t : τ} {s : ApplicationSummary}
    (h : (ApplicationSummary.codec : Codec τ ApplicationSummary).decode t = .ok s) : s.Apart := by
  obtain ⟨fs, build, o, hread, rfl, ho⟩ := Codec.exists_build_of_decode h
  simp only [Layout.read_seq_eq_ok, Layout.read_map_eq_ok] at hread
  obtain ⟨_, ⟨_, ⟨_, ⟨_, _, rfl⟩, _, _, rfl⟩, _, _, rfl⟩, _, _, rfl⟩ := hread
  intro f hf
  refine ho f.name ?_
  have hnames : ApplicationSummary.fields.map (·.name) =
      ["generalApplicationType", "caseLink", "caseState", "parentClaimantIsApplicant"] := rfl
  exact (hnames ▸ List.mem_map_of_mem hf : f.name ∈ _)

/-- The value of an entry that was read has been read itself. -/
theorem Entry.exists_decode_value {c : Codec τ α} {t : τ} {e : Entry α}
    (h : (Entry.codec c).decode t = .ok e) : ∃ t, c.decode t = .ok e.value := by
  obtain ⟨fs, hread⟩ := Codec.exists_read_of_decode h
  simp only [Layout.read_seq_eq_ok, Layout.read_map_eq_ok] at hread
  obtain ⟨_, ⟨_, _, rfl⟩, value, hvalue, rfl⟩ := hread
  exact Layout.exists_of_read_required hvalue

/-! ## Case records -/

/-- The further members of the record and of its summaries are apart from the fields, as they are
in every record that was read. -/
structure CaseRecord.Apart (c : CaseRecord) : Prop where
  rest : Json.Apart CaseRecord.fields c.rest
  applications : ∀ e ∈ c.applications, e.value.Apart
  respondentView : ∀ e ∈ c.respondentView, e.value.Apart

/-- Of a record that was read the further members are apart, and nothing is noted as cleared. -/
theorem CaseRecord.apart_of_decode {t : τ} {c : CaseRecord}
    (h : (CaseRecord.codec : Codec τ CaseRecord).decode t = .ok c) :
    c.Apart ∧ c.cleared = [] := by
  obtain ⟨fs, build, o, hread, rfl, ho⟩ := Codec.exists_build_of_decode h
  simp only [layout, Layout.read_seq_eq_ok, Layout.read_map_eq_ok] at hread
  obtain ⟨_, ⟨_, ⟨_, ⟨_, ⟨_, ⟨_, ⟨_, ⟨_, ⟨_, ⟨_, ⟨_, _, rfl⟩, _, _, rfl⟩, _, _, rfl⟩, _, _, rfl⟩,
    _, _, rfl⟩, _, _, rfl⟩, _, _, rfl⟩, _, _, rfl⟩, _, _, rfl⟩, applications, happ, rfl⟩, view,
    hview, rfl⟩ := hread
  have hsummaries {entries : List (Entry ApplicationSummary)}
      (hread : ∀ e ∈ entries, ∃ t : τ,
        (Entry.codec ApplicationSummary.codec).decode t = .ok e) :
      ∀ e ∈ entries, e.value.Apart := by
    intro e he
    obtain ⟨t, ht⟩ := hread e he
    obtain ⟨t', ht'⟩ := Entry.exists_decode_value ht
    exact ApplicationSummary.apart_of_decode ht'
  refine ⟨⟨fun f hf => ho f.name ?_, hsummaries (Layout.exists_of_read_collection happ),
    hsummaries (Layout.exists_of_read_collection hview)⟩, rfl⟩
  have hnames : (layout (τ := τ)).places.map (·.name) = CaseRecord.fields.map (·.name) := rfl
  rw [hnames]
  exact List.mem_map_of_mem hf

end GeneralApplications

import GeneralApplications.Proofs.Json.Fields
import GeneralApplications.Proofs.Json.Path

/-!
# What written records hold

A written record holds what its fields write, each under its name, and an open record moreover
what its further members hold. So two records that differ in one field only hold the same scalars
wherever a path does not lead into that field.
-/

namespace GeneralApplications.Json

variable {α σ : Type}

/-- What the field writes for `s` holds the scalar `v` at the path. -/
def RecordField.Holds (f : RecordField σ) (s : σ) (path : List Step) (v : Json) : Prop :=
  ∃ w, f.write s = some w ∧ w.Holds path v

section
variable {name : String} {s : σ} {path : List Step} {v : Json}

theorem RecordField.holds_required_iff {get : σ → α} {c : Codec Json α} :
    (RecordField.required name get c).Holds s path v ↔ (c.encode (get s)).Holds path v := by
  simp [Holds, required]

/-- A field for a text holds the text and nothing further in. -/
theorem RecordField.holds_optional_string_iff {get : σ → Option String} :
    (RecordField.optional name get .string).Holds s path v ↔
      path = [] ∧ ∃ t, get s = some t ∧ v = .string t := by
  simp only [Holds, optional, Option.map_eq_some_iff]
  constructor
  · rintro ⟨_, ⟨t, ht, rfl⟩, hv⟩
    obtain ⟨hpath, hv⟩ := (holds_iff_of_isScalar rfl).1 hv
    exact ⟨hpath, t, ht, hv⟩
  · rintro ⟨rfl, t, ht, rfl⟩
    exact ⟨_, ⟨t, ht, rfl⟩, holds_nil_iff.2 ⟨rfl, rfl⟩⟩

/-- A collection holds what its items hold, each at its position. -/
theorem RecordField.holds_collection_iff {get : σ → List α} {c : Codec Json α} :
    (RecordField.collection name get c).Holds s path v ↔
      ∃ i rest a, path = .index i :: rest ∧ (get s)[i]? = some a ∧ (c.encode a).Holds rest v := by
  have hwrite : (RecordField.collection name get c).Holds s path v ↔
      (Json.array ((get s).map c.encode)).Holds path v := by
    simp only [Holds, collection]
    by_cases he : (get s).isEmpty
    · simp [List.isEmpty_iff.1 he, holds_array_iff]
    · simp [he]
  rw [hwrite, holds_array_iff]
  simp only [List.getElem?_map, Option.map_eq_some_iff]
  constructor
  · rintro ⟨i, rest, _, hpath, ⟨a, ha, rfl⟩, hv⟩
    exact ⟨i, rest, a, hpath, ha, hv⟩
  · rintro ⟨i, rest, a, hpath, ha, hv⟩
    exact ⟨i, rest, _, hpath, ⟨a, ha, rfl⟩, hv⟩

end

section
variable {fields : List (RecordField σ)} {s : σ} {path : List Step} {v : Json}

theorem Layout.Lists.holds_object_iff {l : Layout Json σ α} (hl : l.Lists fields)
    (hd : Distinct l.places) :
    (l.object s).toJson.Holds path v ↔
      ∃ f ∈ fields, ∃ rest, path = .key f.name :: rest ∧ f.Holds s rest v := by
  rw [holds_toJson_iff]
  constructor
  · rintro ⟨k, rest, t, rfl, ht, hv⟩
    obtain ⟨f, hf, rfl, hwrite⟩ := hl.exists_of_get?_object hd ht
    exact ⟨f, hf, rest, rfl, t, hwrite, hv⟩
  · rintro ⟨f, hf, rest, rfl, t, ht, hv⟩
    exact ⟨f.name, rest, t, rfl, (hl.get?_object hd hf s).trans ht, hv⟩

/-- A closed record holds what its fields write. -/
theorem holds_record_iff {c : Codec Json σ} (hc : c.IsRecord fields) :
    (c.encode s).Holds path v ↔
      ∃ f ∈ fields, ∃ rest, path = .key f.name :: rest ∧ f.Holds s rest v := by
  obtain ⟨name, l, rfl, hl, hd⟩ := hc
  exact hl.holds_object_iff hd

/-- An open record holds what its fields write and what its further members hold. -/
theorem holds_openRecord_iff {c : Codec Json σ} {rest : σ → Object} {wire : σ → σ}
    (hc : c.IsOpenRecord rest wire fields) (ha : Apart fields (rest s)) :
    (c.encode s).Holds path v ↔
      (rest s).toJson.Holds path v ∨
        ∃ f ∈ fields, ∃ below, path = .key f.name :: below ∧ f.Holds s below v := by
  obtain ⟨name, l, rfl, hl, hd, _⟩ := hc
  rw [← hl.holds_object_iff hd]
  simp only [Codec.openRecord, holds_toJson_iff, Object.get?_override]
  constructor
  · rintro ⟨k, below, t, rfl, ht, hv⟩
    rcases Option.or_eq_some_iff.1 ht with ht | ⟨_, ht⟩
    · exact .inl ⟨k, below, t, rfl, ht, hv⟩
    · exact .inr ⟨k, below, t, rfl, ht, hv⟩
  · rintro (⟨k, below, t, rfl, ht, hv⟩ | ⟨k, below, t, rfl, ht, hv⟩)
    · exact ⟨k, below, t, rfl, by rw [ht]; rfl, hv⟩
    · refine ⟨k, below, t, rfl, ?_, hv⟩
      obtain ⟨f, hf, rfl, _⟩ := hl.exists_of_get?_object hd ht
      rw [ha f hf, ht]
      rfl

/-- Closed records hold the same at a path if the field that it leads into does. -/
theorem holds_record_congr {c : Codec Json σ} (hc : c.IsRecord fields) {s' : σ}
    (hf : ∀ f ∈ fields, ∀ below, path = .key f.name :: below →
      (f.Holds s' below v ↔ f.Holds s below v)) :
    (c.encode s').Holds path v ↔ (c.encode s).Holds path v := by
  rw [holds_record_iff hc, holds_record_iff hc]
  constructor
  · rintro ⟨f, hmem, below, hpath, hv⟩
    exact ⟨f, hmem, below, hpath, (hf f hmem below hpath).1 hv⟩
  · rintro ⟨f, hmem, below, hpath, hv⟩
    exact ⟨f, hmem, below, hpath, (hf f hmem below hpath).2 hv⟩

/-- The same for open records with the same further members. -/
theorem holds_openRecord_congr {c : Codec Json σ} {rest : σ → Object} {wire : σ → σ}
    (hc : c.IsOpenRecord rest wire fields) (ha : Apart fields (rest s)) {s' : σ}
    (hrest : rest s' = rest s)
    (hf : ∀ f ∈ fields, ∀ below, path = .key f.name :: below →
      (f.Holds s' below v ↔ f.Holds s below v)) :
    (c.encode s').Holds path v ↔ (c.encode s).Holds path v := by
  rw [holds_openRecord_iff hc (by rwa [hrest]), holds_openRecord_iff hc ha, hrest]
  constructor
  · rintro (hv | ⟨f, hmem, below, hpath, hv⟩)
    · exact .inl hv
    · exact .inr ⟨f, hmem, below, hpath, (hf f hmem below hpath).1 hv⟩
  · rintro (hv | ⟨f, hmem, below, hpath, hv⟩)
    · exact .inl hv
    · exact .inr ⟨f, hmem, below, hpath, (hf f hmem below hpath).2 hv⟩

end

end GeneralApplications.Json

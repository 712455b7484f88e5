import GeneralApplications.Proofs.Json.RoundTrip

/-!
# Fields read and written again

What becomes of the value under a field's name when its record is read and written again. A field
that is missing stays missing and `null` stays `null`; the empty list is left out, and every other
value is written as it was understood (`Rewriting.written`). Such a field can be read exactly if it
can be rewritten.
-/

namespace GeneralApplications.Json

variable {α β σ : Type}

/-- What is found under the names of a layout can be read. -/
def Layout.Suitable (l : Layout Json σ α) (found : String → Option Json) : Prop :=
  ∃ a, l.Suits found a

namespace Layout
variable {found : String → Option Json}

theorem Suitable.map {l : Layout Json σ α} (h : l.Suitable found) (f : α → β) :
    (f <$> l).Suitable found := by
  obtain ⟨a, ha⟩ := h
  exact ⟨f a, ha.map f⟩

theorem Suitable.seq {l : Layout Json σ (α → β)} {m : Layout Json σ α} (hl : l.Suitable found)
    (hm : m.Suitable found) : (l <*> m).Suitable found := by
  obtain ⟨g, hg⟩ := hl
  obtain ⟨a, ha⟩ := hm
  exact ⟨g a, hg.seq ha⟩

end Layout

/-- A value that is read and written again. -/
def Codec.rewrite (c : Codec Json α) (t : Json) : Except Rejection Json :=
  c.encode <$> c.decode t

/-- How a field is read and written again, apart from the record that it belongs to. -/
structure Rewriting where
  name : String
  rewrite : Json → Except Rejection Json
  isCollection : Bool

namespace Rewriting

/-- A field that may be missing or `null`. -/
def optional (name : String) (c : Codec Json α) : Rewriting :=
  ⟨name, c.rewrite, false⟩

/-- A list that may be missing or `null`. -/
def collection (name : String) (c : Codec Json α) : Rewriting :=
  ⟨name, (Codec.list c).rewrite, true⟩

/-- What stands under the field's name afterwards. -/
def written (r : Rewriting) : Option Json → Except Rejection (Option Json)
  | none => .ok none
  | some t =>
    if t = .null then .ok (some .null)
    else if r.isCollection ∧ t = .array [] then .ok none
    else some <$> r.rewrite t

/-- What `null` leaves behind where nothing else is written. -/
def remains (found : Option Json) : Option Json :=
  if found = some .null then some .null else none

section
variable {name : String} {c : Codec Json α}

@[simp] theorem name_optional : (optional name c).name = name := rfl

@[simp] theorem name_collection : (collection name c).name = name := rfl

theorem remains_of_ne_null {t : Json} (h : t ≠ .null) : remains (some t) = none :=
  if_neg fun he => h (Option.some.inj he)

/-! ## Reading -/

/-- A field that was read is written again. -/
theorem written_of_reads_optional {o : Object} {get : σ → Option α} {s : σ}
    (h : (RecordField.optional name get c).Reads (.ofMembers o.entries) s) :
    (optional name c).written (o.get? name) =
      .ok (((get s).map c.encode).or (remains (o.get? name))) := by
  rcases RecordField.reads_optional_iff.1 h with ⟨hnone, hs⟩ | ⟨t, ht, hread⟩
  · have hnone : o.get? name = none := hnone
    rw [hnone, hs]
    rfl
  · have ht : o.get? name = some t := ht
    rw [ht]
    by_cases hnull : t = .null
    · subst hnull
      obtain hs : none = get s := Except.ok.inj hread
      rw [← hs]
      rfl
    · rw [readOption_json hnull, map_eq_ok_iff] at hread
      obtain ⟨a, ha, hs⟩ := hread
      rw [← hs, remains_of_ne_null hnull]
      simp [written, hnull, optional, Codec.rewrite, ha]

/-- So is a list. -/
theorem written_of_reads_collection {o : Object} {get : σ → List α} {s : σ}
    (h : (RecordField.collection name get c).Reads (.ofMembers o.entries) s) :
    (collection name c).written (o.get? name) =
      .ok (((RecordField.collection name get c).write s).or (remains (o.get? name))) := by
  simp only [RecordField.collection]
  rcases RecordField.reads_collection_iff.1 h with ⟨hnone, hs⟩ | ⟨t, ht, hread⟩
  · have hnone : o.get? name = none := hnone
    rw [hnone, hs]
    rfl
  · have ht : o.get? name = some t := ht
    rw [ht]
    obtain ⟨as?, has, hs⟩ := map_eq_ok_iff.1 hread
    by_cases hnull : t = .null
    · subst hnull
      obtain rfl : none = as? := Except.ok.inj has
      rw [← hs]
      rfl
    · rw [readOption_json hnull, map_eq_ok_iff] at has
      obtain ⟨as, hlist, rfl⟩ := has
      obtain ⟨items, rfl, hitems⟩ := readList_eq_ok.1 hlist
      have hs : as = get s := hs
      rw [← hs, remains_of_ne_null hnull]
      cases items with
      | nil =>
        obtain rfl : as = [] := List.forall₂_nil_left_iff.1 hitems
        rfl
      | cons j items =>
        obtain ⟨a, as, _, _, rfl⟩ := List.forall₂_cons_left_iff.1 hitems
        simp [written, collection, Codec.rewrite, Codec.list, hlist]

/-! ## What can be read -/

theorem exists_written {r : Rewriting} {t : Json} (hnull : t ≠ .null)
    (hempty : ¬ (r.isCollection ∧ t = .array []))
    (h : ∃ w, r.written (some t) = .ok w) : ∃ w, r.rewrite t = .ok w := by
  obtain ⟨w, hw⟩ := h
  rw [written, if_neg hnull, if_neg hempty] at hw
  obtain ⟨j, hj, _⟩ := map_eq_ok_iff.1 hw
  exact ⟨j, hj⟩

theorem exists_decode {t : Json} (h : ∃ w, c.rewrite t = .ok w) : ∃ a, c.decode t = .ok a := by
  obtain ⟨w, hw⟩ := h
  obtain ⟨a, ha, _⟩ := map_eq_ok_iff.1 hw
  exact ⟨a, ha⟩

/-- A field that can be rewritten can be read. -/
theorem suitable_optional {found : String → Option Json} {get : σ → Option α}
    (h : ∃ w, (optional name c).written (found name) = .ok w) :
    (Layout.optional name get c).Suitable found := by
  cases hfound : found name with
  | none => exact ⟨none, Layout.suits_optional (.inl ⟨hfound, rfl⟩)⟩
  | some t =>
    by_cases hnull : t = .null
    · subst hnull
      exact ⟨none, Layout.suits_optional (.inr ⟨_, hfound, rfl⟩)⟩
    · rw [hfound] at h
      obtain ⟨a, ha⟩ := exists_decode (exists_written hnull (by simp [optional]) h)
      refine ⟨some a, Layout.suits_optional (.inr ⟨t, hfound, ?_⟩)⟩
      rw [readOption_json hnull, ha]
      rfl

/-- So can a list. -/
theorem suitable_collection {found : String → Option Json} {get : σ → List α}
    (h : ∃ w, (collection name c).written (found name) = .ok w) :
    (Layout.collection name get c).Suitable found := by
  cases hfound : found name with
  | none => exact ⟨[], Layout.suits_collection (.inl ⟨hfound, rfl⟩)⟩
  | some t =>
    by_cases hnull : t = .null
    · subst hnull
      exact ⟨[], Layout.suits_collection (.inr ⟨_, hfound, rfl⟩)⟩
    · have hlist : ∃ as, readList c.decode t = .ok as := by
        by_cases hempty : t = .array []
        · subst hempty
          exact ⟨[], rfl⟩
        · rw [hfound] at h
          exact exists_decode (c := Codec.list c) (exists_written hnull (by simp [hempty]) h)
      obtain ⟨as, has⟩ := hlist
      refine ⟨as, Layout.suits_collection (.inr ⟨t, hfound, ?_⟩)⟩
      rw [readOption_json hnull, has]
      rfl

end

end Rewriting

end GeneralApplications.Json

import GeneralApplications.Proofs.Json.Writing

/-!
# What rewriting keeps

A value that is read with a codec and written again has lost what the type does not hold. A
`Retention` says which scalars survive, by the value and the path that leads to them, and
`Codec.Retains` says that it is exact: of the scalars that a readable value holds, the rewritten
value holds those at the same path and no others.

Main results:

* `retains_record`: a closed record keeps what its fields keep, if it was given as an object.
* `retains_openRecord`: an open record keeps moreover every member that is no field.
-/

namespace GeneralApplications.Json

variable {α σ : Type}

/-- Which scalars of a value are kept. -/
abbrev Retention := Json → List Step → Prop

namespace Retention

/-- Everything is kept. -/
def all : Retention := fun _ _ => True

/-- What is kept of each item of a list. -/
def list (r : Retention) : Retention
  | .array items, .index i :: rest => ∃ t, items[i]? = some t ∧ r t rest
  | _, _ => False

/-- What is kept of the members with these names; other members are lost. -/
def record (kept : List (String × Retention)) : Retention
  | .object members, .key k :: rest =>
    ∃ r, (k, r) ∈ kept ∧ ∃ t, (Object.ofMembers members).get? k = some t ∧ r t rest
  | _, _ => False

/-- What is kept of the members with these names; other members are kept as they are. -/
def openRecord (kept : List (String × Retention)) : Retention
  | .object members, .key k :: rest =>
    k ∉ kept.map (·.1) ∨ record kept (.object members) (.key k :: rest)
  | _, _ => False

end Retention

/-- Of the scalars of a value that can be read, exactly those that `r` names are at their path when
it is written again. -/
def Codec.Retains (c : Codec Json α) (r : Retention) : Prop :=
  ∀ {j a}, c.decode j = .ok a → ∀ {path v}, j.Holds path v →
    ((c.encode a).Holds path v ↔ r j path)

/-- The same for a field of the record `s` and the value found at its place among `members`. -/
def RecordField.RetainsAt (f : RecordField σ) (members : List (String × Json)) (s : σ)
    (r : Retention) : Prop :=
  ∀ {t}, Object.lookup f.name members = some t → ∀ {path v}, t.Holds path v →
    (f.Holds s path v ↔ r t path)

/-- The same for a field wherever it is read. -/
def RecordField.Retains (f : RecordField σ) (r : Retention) : Prop :=
  ∀ {members s}, f.Reads (.ofMembers members) s → f.RetainsAt members s r

/-! ## Simple values -/

/-- A text is kept. -/
theorem retains_string : (Codec.string : Codec Json String).Retains .all := by
  intro j s h path v hv
  cases j with
  | string s' =>
    obtain rfl : s' = s := Except.ok.inj h
    exact ⟨fun _ => trivial, fun _ => hv⟩
  | null => cases h
  | bool b => cases h
  | number n => cases h
  | array items => cases h
  | object members => cases h

/-- An alternative is kept: as a text it is its name, and as an object it holds no scalar. -/
theorem retains_named {all : List α} {name : α → String} :
    (Codec.named all name : Codec Json α).Retains .all := by
  intro j a h path v hv
  cases j with
  | string s =>
    obtain ⟨e, hfind, rfl⟩ := variant_eq_ok_iff.1 h
    have hname : e.1 = s := by simpa using List.find?_some hfind
    obtain ⟨b, _, rfl⟩ := List.mem_map.1 (List.mem_of_find?_eq_some hfind)
    subst hname
    exact ⟨fun _ => trivial, fun _ => hv⟩
  | object members =>
    match members, h with
    | [], h => cases h
    | [(n, t)], h =>
      have h : variantOfValue _ [(n, t)] = .ok a := h
      obtain ⟨b, _, h⟩ := bind_eq_ok_iff.1 h
      obtain ⟨_, ht, _⟩ := bind_eq_ok_iff.1 h
      have hnull : t = .null := by cases t <;> first | rfl | cases ht
      obtain ⟨k, rest, u, rfl, hu, hv⟩ := holds_object_iff.1 hv
      rw [Object.get?_ofMembers] at hu
      have := Object.mem_of_lookup hu
      simp only [List.reverse_singleton, List.mem_singleton, Prod.mk.injEq] at this
      rw [this.2, hnull] at hv
      exact absurd hv not_holds_null
    | _ :: _ :: _, h => cases h
  | null => cases h
  | bool b => cases h
  | number n => cases h
  | array items => cases h

/-! ## Options and lists -/

/-- A field that may be missing keeps what its codec keeps. -/
theorem retains_optional {name : String} {get : σ → Option α} {c : Codec Json α} {r : Retention}
    (hc : c.Retains r) : (RecordField.optional name get c).Retains r := by
  intro members s hread t ht path v hv
  have hne : t ≠ .null := by
    rintro rfl
    exact not_holds_null hv
  rcases RecordField.reads_optional_iff.1 hread with ⟨hnone, _⟩ | ⟨u, hu, hdec⟩
  · rw [show Object.lookup name members = some t from ht] at hnone
    cases hnone
  · obtain rfl : u = t := Option.some.inj (hu.symm.trans ht)
    rw [readOption_json hne, map_eq_ok_iff] at hdec
    obtain ⟨a, ha, hs⟩ := hdec
    simp only [RecordField.Holds, RecordField.optional, ← hs, Option.map_some, Option.some.injEq,
      exists_eq_left']
    exact hc ha hv

/-- A field that must be there keeps what its codec keeps. -/
theorem retains_required {name : String} {get : σ → α} {c : Codec Json α} {r : Retention}
    (hc : c.Retains r) : (RecordField.required name get c).Retains r := by
  intro members s hread t ht path v hv
  obtain ⟨u, hu, hdec⟩ := RecordField.reads_required_iff.1 hread
  obtain rfl : u = t := Option.some.inj (hu.symm.trans ht)
  simp only [RecordField.Holds, RecordField.required, Option.some.injEq, exists_eq_left']
  exact hc hdec hv

/-- A list keeps of each item what the codec of the items keeps. -/
theorem retains_list {c : Codec Json α} {r : Retention} (hc : c.Retains r) {items : List Json}
    {as : List α} (h : List.Forall₂ (fun j a => c.decode j = .ok a) items as) {path : List Step}
    {v : Json} (hv : (Json.array items).Holds path v) :
    (Json.array (as.map c.encode)).Holds path v ↔ Retention.list r (.array items) path := by
  obtain ⟨i, rest, t, rfl, ht, hv⟩ := holds_array_iff.1 hv
  obtain ⟨hi, rfl⟩ := List.getElem?_eq_some_iff.1 ht
  have hlen := h.length_eq
  have ha := h.get hi (by omega)
  rw [holds_cons_iff]
  simp only [child?, List.getElem?_map, Retention.list, ht, Option.some.injEq, exists_eq_left',
    List.getElem?_eq_getElem (show i < as.length by omega), Option.map_some]
  exact hc ha hv

/-- A collection keeps of each item what the codec of the items keeps. -/
theorem retains_collection {name : String} {get : σ → List α} {c : Codec Json α} {r : Retention}
    (hc : c.Retains r) : (RecordField.collection name get c).Retains (.list r) := by
  intro members s hread t ht path v hv
  have hne : t ≠ .null := by
    rintro rfl
    exact not_holds_null hv
  rcases RecordField.reads_collection_iff.1 hread with ⟨hnone, _⟩ | ⟨u, hu, hdec⟩
  · rw [show Object.lookup name members = some t from ht] at hnone
    cases hnone
  · obtain rfl : u = t := Option.some.inj (hu.symm.trans ht)
    rw [readOption_json hne, map_eq_ok_iff] at hdec
    obtain ⟨o, ho, hs⟩ := hdec
    obtain ⟨as, has, rfl⟩ := map_eq_ok_iff.1 ho
    obtain ⟨items, rfl, hitems⟩ := readList_eq_ok.1 has
    have hs : as = get s := hs
    subst hs
    have hne : ¬ (get s).isEmpty := by
      intro he
      rw [List.isEmpty_iff.1 he] at hitems
      cases hitems
      obtain ⟨i, _, _, _, hi, _⟩ := holds_array_iff.1 hv
      simp at hi
    simp only [RecordField.Holds, RecordField.collection, if_neg hne, Option.some.injEq,
      exists_eq_left']
    exact retains_list hc hitems hv

/-! ## Records -/

section
variable {fields : List (RecordField σ)} {kept : List (String × Retention)}

/-- Each field keeps what stands beside its name. -/
abbrev RetainedBy (fields : List (RecordField σ)) (kept : List (String × Retention)) : Prop :=
  List.Forall₂ (fun f r => f.name = r.1 ∧ f.Retains r.2) fields kept

/-- Each field of the record `s` keeps what stands beside its name. -/
abbrev RetainedAt (members : List (String × Json)) (s : σ) (fields : List (RecordField σ))
    (kept : List (String × Retention)) : Prop :=
  List.Forall₂ (fun f r => f.name = r.1 ∧ f.RetainsAt members s r.2) fields kept

theorem RetainedBy.at (h : RetainedBy fields kept) {members : List (String × Json)} {s : σ}
    (hread : ∀ f ∈ fields, f.Reads (.ofMembers members) s) :
    RetainedAt members s fields kept := by
  induction h with
  | nil => exact .nil
  | @cons f r _ _ hf _ ih =>
    exact .cons ⟨hf.1, hf.2 (hread f (by simp))⟩ (ih fun g hg => hread g (by simp [hg]))

theorem RetainedAt.of_field {members : List (String × Json)} {s : σ}
    (h : RetainedAt members s fields kept) {f : RecordField σ} (hf : f ∈ fields) :
    ∃ r, (f.name, r) ∈ kept ∧ f.RetainsAt members s r := by
  induction h with
  | nil => cases hf
  | @cons g r _ _ hg _ ih =>
    rcases List.mem_cons.1 hf with rfl | hf
    · exact ⟨r.2, by simp [hg.1], hg.2⟩
    · obtain ⟨r, hr, hret⟩ := ih hf
      exact ⟨r, by simp [hr], hret⟩

theorem RetainedAt.of_kept {members : List (String × Json)} {s : σ}
    (h : RetainedAt members s fields kept) {k : String} {r : Retention} (hr : (k, r) ∈ kept) :
    ∃ f ∈ fields, f.name = k ∧ f.RetainsAt members s r := by
  induction h with
  | nil => cases hr
  | @cons g q _ _ hg _ ih =>
    rcases List.mem_cons.1 hr with rfl | hr
    · exact ⟨g, by simp, hg.1, hg.2⟩
    · obtain ⟨f, hf, hname, hret⟩ := ih hr
      exact ⟨f, by simp [hf], hname, hret⟩

/-- What a record writes under a key is what it read there, as far as its fields keep it. -/
theorem holds_object_iff_record {l : Layout Json σ α} (hl : l.Lists fields)
    (hd : Distinct l.places) {members : List (String × Json)}
    (hvisit : ∃ other, visit l.places other [] members = .ok ()) {s : σ}
    (hk : RetainedAt members s fields kept) {k : String} {t : Json}
    (ht : (Object.ofMembers members).get? k = some t) {path : List Step} {v : Json}
    (hv : t.Holds path v) :
    (∃ w, (l.object s).get? k = some w ∧ w.Holds path v) ↔
      Retention.record kept (.object members) (.key k :: path) := by
  have hfield {f : RecordField σ} (hf : f ∈ fields) (hfk : f.name = k) :
      Object.lookup f.name members = some t := by
    rw [hl.lookup_eq_get? hd hvisit hf, hfk, ht]
  simp only [Retention.record, ht, Option.some.injEq, exists_eq_left']
  constructor
  · rintro ⟨w, hw, hwv⟩
    obtain ⟨f, hf, hfk, hwrite⟩ := hl.exists_of_get?_object hd hw
    obtain ⟨r, hr, hret⟩ := hk.of_field hf
    exact ⟨r, hfk ▸ hr, (hret (hfield hf hfk) hv).1 ⟨w, hwrite, hwv⟩⟩
  · rintro ⟨r, hr, hkeep⟩
    obtain ⟨f, hf, hfk, hret⟩ := hk.of_kept hr
    rw [← hfk, hl.get?_object hd hf]
    exact (hret (hfield hf hfk) hv).2 hkeep

/-- A closed record given as an object keeps what its fields keep; given as a list, it keeps
nothing in its place. -/
theorem retains_record_at {c : Codec Json σ} (hc : c.IsRecord fields) {r : Retention}
    (hk : ∀ {members s}, (∀ f ∈ fields, f.Reads (.ofMembers members) s) →
      (∀ f ∈ fields, Object.lookup f.name members = (Object.ofMembers members).get? f.name) →
      ∃ kept, RetainedAt members s fields kept ∧
        ∀ path, r (.object members) path ↔ Retention.record kept (.object members) path)
    (hlist : ∀ items path, ¬ r (.array items) path) : c.Retains r := by
  obtain ⟨name, l, rfl, hl, hd⟩ := hc
  intro j s hdec path v hv
  rcases Codec.decode_record hdec with ⟨members, rfl, hvisit, hread⟩ | ⟨items, rfl, _⟩
  · obtain ⟨k, rest, t, rfl, ht, hv⟩ := holds_object_iff.1 hv
    obtain ⟨kept, hkept, hr⟩ :=
      hk ((hl.read _ _).1 hread) fun f hf => hl.lookup_eq_get? hd hvisit hf
    rw [hr]
    exact holds_toJson_key_iff.trans (holds_object_iff_record hl.toLists hd hvisit hkept ht hv)
  · obtain ⟨i, rest, t, rfl, ht, hv⟩ := holds_array_iff.1 hv
    simp [Codec.record, holds_toJson_iff, hlist]

/-- A closed record keeps what its fields keep. -/
theorem retains_record {c : Codec Json σ} (hc : c.IsRecord fields)
    (hk : RetainedBy fields kept) : c.Retains (.record kept) :=
  retains_record_at hc (fun hread _ => ⟨kept, hk.at hread, fun _ => Iff.rfl⟩)
    fun _ _ h => by simp [Retention.record] at h

/-- An open record keeps what its fields keep, and every member that is no field as it is. -/
theorem retains_openRecord {c : Codec Json σ} {rest : σ → Object} {wire : σ → σ}
    (hc : c.IsOpenRecord rest wire fields) (hk : RetainedBy fields kept) :
    c.Retains (.openRecord kept) := by
  obtain ⟨name, l, rfl, hl, hd, ha⟩ := hc
  intro j s hdec path v hv
  obtain ⟨members, rfl, hvisit, build, hread, rfl⟩ := Codec.decode_openRecord hdec
  obtain ⟨k, path, t, rfl, ht, hv⟩ := holds_object_iff.1 hv
  obtain ⟨hrest, hreads⟩ := hl.read _ _ hread (Object.ofMembers (unknownMembers l.places members))
  have hkept := hk.at hreads
  simp only [Codec.openRecord, holds_toJson_key_iff, Object.get?_override, hrest]
  cases hp : placeOf? l.places k with
  | some p =>
    have hmem : k ∈ kept.map (·.1) := by
      obtain ⟨f, hf, rfl⟩ := hl.exists_of_placeOf? hp
      obtain ⟨r, hr, _⟩ := hkept.of_field hf
      exact name_of_placeOf? ha hp ▸ List.mem_map_of_mem hr
    rw [get?_unknownMembers_of_place hp, Option.none_or,
      holds_object_iff_record hl.toLists hd hvisit hkept ht hv]
    simp only [Retention.openRecord, hmem, not_true_eq_false, false_or]
  | none =>
    have hmem : k ∉ kept.map (·.1) := by
      intro hmem
      obtain ⟨⟨_, r⟩, hr, rfl⟩ := List.mem_map.1 hmem
      obtain ⟨f, hf, hname, _⟩ := hkept.of_kept hr
      have hfield := hl.toLists.placeOf?_name hd hf
      rw [hname, hp] at hfield
      cases hfield
    rw [get?_unknownMembers_of_none hp, ht]
    simp [Retention.openRecord, hmem, hv]

end

end GeneralApplications.Json

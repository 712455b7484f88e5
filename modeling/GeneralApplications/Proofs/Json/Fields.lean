import GeneralApplications.Json.Codec
import GeneralApplications.Proofs.Json.Reading
import Mathlib.Data.List.Nodup

/-!
# Records as lists of fields

A layout is built up field by field; what its reader and its writer do is told here for all of
them at once. `Layout.Consists` says which fields a layout is made of: a record is read exactly if
each of its fields finds the record's value (`RecordField.Reads`), and it is written as the list of
what its fields write.

Main results:

* `visit_cons`, `lookup_reverse_of_visit`: what a visit that succeeds says about the members.
* `find_ofMembers`: where a record's reader finds the value of a place.
* `Layout.Lists.get?_object`: what a written record has under the name of a field.
-/

namespace GeneralApplications.Json

variable {α β σ : Type}

/-! ## Look-ups -/

namespace Object

theorem lookup_eq_none_iff {k : String} {l : List (String × Json)} :
    lookup k l = none ↔ ∀ m ∈ l, m.1 ≠ k := by
  induction l with
  | nil => simp [lookup]
  | cons m r ih => by_cases h : m.1 = k <;> simp [lookup, h, ih]

theorem mem_of_lookup {k : String} {v : Json} {l : List (String × Json)}
    (h : lookup k l = some v) : (k, v) ∈ l := by
  induction l with
  | nil => cases h
  | cons m r ih =>
    unfold lookup at h
    split at h
    next hm => simp [← hm, ← Option.some.inj h]
    next => exact List.mem_cons_of_mem _ (ih h)

/-- The items under a key, of which there are none unless it has an array. -/
def items (o : Object) (k : String) : List Json :=
  match o.get? k with
  | some (.array items) => items
  | _ => []

theorem lookup_filter_of_pos {k : String} {l : List (String × Json)}
    {keep : String × Json → Bool} (h : ∀ v, keep (k, v) = true) :
    lookup k (l.filter keep) = lookup k l := by
  induction l with
  | nil => rfl
  | cons m r ih =>
    obtain ⟨j, v⟩ := m
    by_cases hj : j = k
    · subst hj
      rw [List.filter_cons_of_pos (h v)]
      simp [lookup]
    · by_cases hm : keep (j, v) = true
      · simp [lookup, hj, ih, hm]
      · simp [lookup, hj, ih, hm]

theorem get?_foldl_insertSome_of_not_mem {k : String} {fields : List (String × Option Json)}
    (h : k ∉ fields.map (·.1)) (o : Object) :
    (fields.foldl (fun o f => o.insertSome f.1 f.2) o).get? k = o.get? k := by
  induction fields generalizing o with
  | nil => rfl
  | cons f r ih =>
    rw [List.map_cons, List.mem_cons, not_or] at h
    rw [List.foldl_cons, ih h.2, get?_insertSome, if_neg (Ne.symm h.1)]

theorem get?_foldl_insertSome_of_mem {k : String} {v : Option Json}
    {fields : List (String × Option Json)} (hn : (fields.map (·.1)).Nodup)
    (h : (k, v) ∈ fields) (o : Object) :
    (fields.foldl (fun o f => o.insertSome f.1 f.2) o).get? k = v.or (o.get? k) := by
  induction fields generalizing o with
  | nil => cases h
  | cons f r ih =>
    rw [List.map_cons, List.nodup_cons] at hn
    rw [List.foldl_cons]
    rcases List.mem_cons.1 h with rfl | h
    · rw [get?_foldl_insertSome_of_not_mem hn.1, get?_insertSome, if_pos rfl]
    · have hne : f.1 ≠ k := fun he => hn.1 (he ▸ List.mem_map_of_mem h)
      rw [ih hn.2 h, get?_insertSome, if_neg hne]

end Object

/-! ## Places -/

/-- No two places have the same name, and no place has the name of one as an alias. -/
def Distinct (places : List (Place Json)) : Prop :=
  (places.map (·.name)).Nodup ∧ ∀ a ∈ places.flatMap (·.aliases), a ∉ places.map (·.name)

/-- Where there are no aliases, different names are enough. -/
theorem Distinct.of_names {places : List (Place Json)} (hn : (places.map (·.name)).Nodup)
    (ha : places.flatMap (·.aliases) = []) : Distinct places :=
  ⟨hn, by simp [ha]⟩

theorem placeOf?_name {places : List (Place Json)} (h : Distinct places) {p : Place Json}
    (hp : p ∈ places) : placeOf? places p.name = some p := by
  obtain ⟨hn, ha⟩ := h
  unfold placeOf?
  induction places with
  | nil => cases hp
  | cons q r ih =>
    rw [List.map_cons, List.nodup_cons] at hn
    rcases List.mem_cons.1 hp with rfl | hr
    · simp
    · have hne : q.name ≠ p.name := fun he => hn.1 (he ▸ List.mem_map_of_mem hr)
      have hal : p.name ∉ q.aliases := fun hal =>
        ha p.name (List.mem_flatMap.2 ⟨q, by simp, hal⟩) (List.mem_map_of_mem hp)
      rw [List.find?_cons_of_neg (by simp [hne, hal])]
      refine ih hr hn.2 fun a hmem hname => ha a ?_ (List.mem_cons_of_mem _ hname)
      rw [List.flatMap_cons]
      exact List.mem_append_right _ hmem

/-- Without aliases a key belongs to the place of its name only. -/
theorem name_of_placeOf? {places : List (Place Json)} (ha : places.flatMap (·.aliases) = [])
    {k : String} {p : Place Json} (h : placeOf? places k = some p) : p.name = k := by
  have hp : p.aliases = [] := List.flatMap_eq_nil_iff.1 ha p (List.mem_of_find?_eq_some h)
  simpa [hp] using List.find?_some h

/-! ## Visiting -/

section
variable {places : List (Place Json)} {other : Json → Except Rejection Unit}

/-- A visit goes on after a member if it belongs to a place that was not met before and suits it,
or if it belongs to none and passes. -/
theorem visit_cons {seen : List String} {k : String} {t : Json} {rest : List (String × Json)}
    (h : visit places other seen ((k, t) :: rest) = .ok ()) :
    ∃ seen', visit places other seen' rest = .ok () ∧ (∀ n ∈ seen, n ∈ seen') ∧
      ∀ p, placeOf? places k = some p →
        p.name ∉ seen ∧ p.name ∈ seen' ∧ p.check t = .ok () := by
  simp only [visit] at h
  split at h
  next p hp =>
    split at h
    next => cases h
    next hs =>
      obtain ⟨_, hc, h⟩ := bind_eq_ok_iff.1 h
      refine ⟨p.name :: seen, h, fun n hn => List.mem_cons_of_mem _ hn, ?_⟩
      rintro q hq
      obtain rfl : p = q := Option.some.inj (hp.symm.trans hq)
      exact ⟨by simpa using hs, by simp, within_eq_ok_iff.1 hc⟩
  next hp =>
    obtain ⟨_, _, h⟩ := bind_eq_ok_iff.1 h
    refine ⟨seen, h, fun n hn => hn, ?_⟩
    intro p hq
    rw [hp] at hq
    cases hq

/-- A place that was met before is not met again. -/
theorem placeOf?_ne_of_visit {seen : List String} {members : List (String × Json)}
    {p : Place Json} (h : visit places other seen members = .ok ()) (hp : p.name ∈ seen) :
    ∀ m ∈ members, placeOf? places m.1 ≠ some p := by
  induction members generalizing seen with
  | nil => simp
  | cons m r ih =>
    obtain ⟨seen', hr, hsub, hplace⟩ := visit_cons h
    intro m' hm'
    rcases List.mem_cons.1 hm' with rfl | hm'
    · exact fun he => (hplace p he).1 hp
    · exact ih hr (hsub _ hp) m' hm'

/-- A key of a place stands for one member at most, so that the first and the last member with
that key are the same. -/
theorem lookup_reverse_of_visit {seen : List String} {members : List (String × Json)}
    {k : String} {p : Place Json} (h : visit places other seen members = .ok ())
    (hp : placeOf? places k = some p) :
    Object.lookup k members.reverse = Object.lookup k members := by
  induction members generalizing seen with
  | nil => rfl
  | cons m r ih =>
    obtain ⟨j, t⟩ := m
    obtain ⟨seen', hr, _, hplace⟩ := visit_cons h
    rw [List.reverse_cons, Object.lookup_concat, ih hr]
    by_cases hj : j = k
    · subst hj
      have hnone : Object.lookup j r = none :=
        Object.lookup_eq_none_iff.2 fun m hm he =>
          placeOf?_ne_of_visit hr (hplace p hp).2.1 m hm (he ▸ hp)
      simp [hnone, Object.lookup]
    · simp [Object.lookup, hj]

end

/-- Of the members that belong to no place none has the key of a place. -/
theorem get?_unknownMembers_of_place {places : List (Place Json)} {k : String} {p : Place Json}
    (hp : placeOf? places k = some p) (members : List (String × Json)) :
    (Object.ofMembers (unknownMembers places members)).get? k = none := by
  rw [Object.get?_ofMembers, Object.lookup_eq_none_iff]
  intro m hm he
  rw [List.mem_reverse, unknownMembers, List.mem_filter, he, hp] at hm
  simp at hm

/-- The members that belong to no place are found as they were given. -/
theorem get?_unknownMembers_of_none {places : List (Place Json)} {k : String}
    (hk : placeOf? places k = none) (members : List (String × Json)) :
    (Object.ofMembers (unknownMembers places members)).get? k =
      (Object.ofMembers members).get? k := by
  rw [Object.get?_ofMembers, Object.get?_ofMembers, unknownMembers, ← List.filter_reverse]
  exact Object.lookup_filter_of_pos fun v => by simp [hk]

/-! ## Findings -/

/-- A place whose aliases do not occur finds what stands under its name. -/
theorem find_ofMembers {members : List (String × Json)} {p : Place Json}
    (ha : ∀ a ∈ p.aliases, Object.lookup a members = none) :
    (Findings.ofMembers members).find p =
      .ok ((Object.lookup p.name members).map fun t => (.key p.name, t)) := by
  simp only [Findings.ofMembers]
  congr 1
  induction members with
  | nil => rfl
  | cons m r ih =>
    obtain ⟨j, t⟩ := m
    have hm : ∀ a ∈ p.aliases, j ≠ a := fun a hmem =>
      (Object.lookup_eq_none_iff.1 (ha a hmem)) (j, t) (by simp)
    have hr : ∀ a ∈ p.aliases, Object.lookup a r = none := fun a hmem => by
      have := ha a hmem
      rwa [Object.lookup, if_neg (hm a hmem)] at this
    by_cases hj : j = p.name
    · simp [Object.lookup, hj]
    · have hn : j ∉ p.aliases := fun h => hm j h rfl
      rw [List.find?_cons_of_neg (by simp [Ne.symm hj, hn]), ih hr]
      simp [Object.lookup, hj]

/-! ## Fields -/

/-- One field of a record: its place, when what is found there is what the record has, and what
the record writes. -/
structure RecordField (σ : Type) where
  place : Place Json
  Reads : Findings Json → σ → Prop
  write : σ → Option Json

namespace RecordField

/-- The name of a field. -/
def name (f : RecordField σ) : String :=
  f.place.name

/-- A field that must be there. -/
def required (name : String) (get : σ → α) (c : Codec Json α) : RecordField σ where
  place := Layout.place name [] c.decode
  Reads fs s := (Layout.required name get c).read fs = .ok (get s)
  write s := some (c.encode (get s))

/-- A field that may be missing or `null`. -/
def optional (name : String) (get : σ → Option α) (c : Codec Json α) : RecordField σ where
  place := Layout.place name [] (readOption c.decode)
  Reads fs s := (Layout.optional name get c).read fs = .ok (get s)
  write s := (get s).map c.encode

/-- A list that may be missing or `null`. -/
def collection (name : String) (get : σ → List α) (c : Codec Json α) : RecordField σ where
  place := Layout.place name [] fun t => (·.getD []) <$> readOption (readList c.decode) t
  Reads fs s := (Layout.collection name get c).read fs = .ok (get s)
  write s := if (get s).isEmpty then none else some (.array ((get s).map c.encode))

@[simp] theorem name_required {name : String} {get : σ → α} {c : Codec Json α} :
    (RecordField.required name get c).name = name := rfl

@[simp] theorem name_optional {name : String} {get : σ → Option α} {c : Codec Json α} :
    (RecordField.optional name get c).name = name := rfl

@[simp] theorem name_collection {name : String} {get : σ → List α} {c : Codec Json α} :
    (RecordField.collection name get c).name = name := rfl

section
variable {name : String} {members : List (String × Json)} {s : σ}

/-- A place without aliases finds what stands under its name. -/
theorem find_place (check : Json → Except Rejection Unit) :
    (Findings.ofMembers members).find ⟨name, [], check⟩ =
      .ok ((Object.lookup name members).map fun t => (.key name, t)) :=
  find_ofMembers (by simp)

theorem reads_required_iff {get : σ → α} {c : Codec Json α} :
    (RecordField.required name get c).Reads (.ofMembers members) s ↔
      ∃ t, Object.lookup name members = some t ∧ c.decode t = .ok (get s) := by
  simp only [required, Layout.required, Layout.place, find_place]
  cases Object.lookup name members with
  | none => simp [bind, Except.bind]
  | some t => simp [bind, Except.bind, Layout.readFound]

theorem reads_optional_iff {get : σ → Option α} {c : Codec Json α} :
    (RecordField.optional name get c).Reads (.ofMembers members) s ↔
      (Object.lookup name members = none ∧ get s = none) ∨
      ∃ t, Object.lookup name members = some t ∧ readOption c.decode t = .ok (get s) := by
  simp only [optional, Layout.optional, Layout.place, find_place]
  cases Object.lookup name members with
  | none => simp [bind, Except.bind, eq_comm]
  | some t => simp [bind, Except.bind, Layout.readFound]

theorem reads_collection_iff {get : σ → List α} {c : Codec Json α} :
    (RecordField.collection name get c).Reads (.ofMembers members) s ↔
      (Object.lookup name members = none ∧ get s = []) ∨
      ∃ t, Object.lookup name members = some t ∧
        (·.getD []) <$> readOption (readList c.decode) t = .ok (get s) := by
  simp only [collection, Layout.collection, Layout.place, find_place]
  cases Object.lookup name members with
  | none => simp [bind, Except.bind, eq_comm]
  | some t => simp [bind, Except.bind, Layout.readFound]

/-- What was read of a collection are the items that stand under its name. -/
theorem forall₂_items_of_reads {get : σ → List α} {c : Codec Json α} {o : Object}
    (h : (RecordField.collection name get c).Reads (.ofMembers o.entries) s) :
    List.Forall₂ (fun j a => c.decode j = .ok a) (o.items name) (get s) := by
  rcases reads_collection_iff.1 h with ⟨hnone, hs⟩ | ⟨t, ht, hread⟩
  · have hnone : o.get? name = none := hnone
    simp [Object.items, hnone, hs]
  · have ht : o.get? name = some t := ht
    obtain ⟨as, has, hs⟩ := map_eq_ok_iff.1 hread
    by_cases hnull : t = .null
    · subst hnull
      cases has
      simp [Object.items, ht, ← hs]
    · rw [readOption_json hnull, map_eq_ok_iff] at has
      obtain ⟨as', hlist, rfl⟩ := has
      obtain ⟨items, rfl, hitems⟩ := readList_eq_ok.1 hlist
      simpa [Object.items, ht, ← hs] using hitems

end

end RecordField

namespace Layout

/-- The fields of a layout are visited and written one after another. -/
structure Lists (l : Layout Json σ α) (fields : List (RecordField σ)) : Prop where
  places : l.places = fields.map (·.place)
  write : ∀ s, l.write s = fields.map fun f => (f.name, f.write s)

/-- The layout of a closed record is made of these fields. -/
structure Consists (l : Layout Json σ σ) (fields : List (RecordField σ)) : Prop
    extends l.Lists fields where
  read : ∀ fs s, l.read fs = .ok s ↔ ∀ f ∈ fields, f.Reads fs s

/-- The layout of an open record is made of these fields, and of the members that it does not
know. Together they are all that `wire` leaves of a record. -/
structure ConsistsOpenly (l : Layout Json σ (Object → σ)) (rest : σ → Object) (wire : σ → σ)
    (fields : List (RecordField σ)) : Prop extends l.Lists fields where
  read : ∀ fs build, l.read fs = .ok build →
    ∀ o, rest (build o) = o ∧ ∀ f ∈ fields, f.Reads fs (build o)
  rebuild : ∀ fs s, (∀ f ∈ fields, f.Reads fs s) →
    ∃ build, l.read fs = .ok build ∧ build (rest s) = wire s

theorem read_map_eq_ok {τ : Type} [Readable τ] {f : α → β} {l : Layout τ σ α} {fs : Findings τ}
    {b : β} :
    (f <$> l).read fs = .ok b ↔ ∃ a, l.read fs = .ok a ∧ f a = b := by
  have hread : (f <$> l).read fs = (do let a ← l.read fs; return f a) := rfl
  simp [hread, bind_eq_ok_iff, pure, Except.pure]

theorem read_seq_eq_ok {τ : Type} [Readable τ] {l : Layout τ σ (α → β)} {m : Layout τ σ α}
    {fs : Findings τ} {b : β} :
    (l <*> m).read fs = .ok b ↔
      ∃ g, l.read fs = .ok g ∧ ∃ a, m.read fs = .ok a ∧ g a = b := by
  have hread : (l <*> m).read fs = (do let g ← l.read fs; let a ← m.read fs; return g a) := rfl
  simp [hread, bind_eq_ok_iff, pure, Except.pure]

variable {l : Layout Json σ α} {fields : List (RecordField σ)}

theorem Lists.nodup (h : l.Lists fields) (hd : Distinct l.places) :
    (fields.map (·.name)).Nodup := by
  have := hd.1
  rwa [h.places, List.map_map] at this

/-- The object of a record has what the layout writes. -/
theorem get?_object_of_mem {s : σ} (hn : ((l.write s).map (·.1)).Nodup)
    {w : String × Option Json} (hw : w ∈ l.write s) : (l.object s).get? w.1 = w.2 := by
  unfold Layout.object Object.ofFields
  rw [Object.get?_foldl_insertSome_of_mem hn hw, Object.get?_empty, Option.or_none]

/-- It has nothing else. -/
theorem get?_object_of_not_mem {s : σ} {k : String} (hk : k ∉ (l.write s).map (·.1)) :
    (l.object s).get? k = none := by
  unfold Layout.object Object.ofFields
  rw [Object.get?_foldl_insertSome_of_not_mem hk, Object.get?_empty]

theorem Lists.get?_object (h : l.Lists fields) (hd : Distinct l.places) {f : RecordField σ}
    (hf : f ∈ fields) (s : σ) : (l.object s).get? f.name = f.write s := by
  have hn : ((l.write s).map (·.1)).Nodup := by
    rw [h.write, List.map_map]
    exact h.nodup hd
  have hm : (f.name, f.write s) ∈ l.write s := by
    rw [h.write]
    exact List.mem_map_of_mem hf
  exact get?_object_of_mem hn hm

theorem Lists.get?_object_eq_none (h : l.Lists fields) {k : String}
    (hk : ∀ f ∈ fields, f.name ≠ k) (s : σ) : (l.object s).get? k = none := by
  refine get?_object_of_not_mem ?_
  rw [h.write, List.map_map, List.mem_map]
  rintro ⟨f, hf, rfl⟩
  exact hk f hf rfl

/-- What the object has under a key was written by the field of that name. -/
theorem Lists.exists_of_get?_object (h : l.Lists fields) (hd : Distinct l.places) {k : String}
    {s : σ} {t : Json} (ht : (l.object s).get? k = some t) :
    ∃ f ∈ fields, f.name = k ∧ f.write s = some t := by
  by_cases hex : ∃ f ∈ fields, f.name = k
  · obtain ⟨f, hf, rfl⟩ := hex
    exact ⟨f, hf, rfl, by rw [← h.get?_object hd hf, ht]⟩
  · rw [h.get?_object_eq_none fun f hf hfk => hex ⟨f, hf, hfk⟩] at ht
    cases ht

/-- A place of the layout is the place of one of its fields. -/
theorem Lists.exists_of_placeOf? (h : l.Lists fields) {k : String} {p : Place Json}
    (hp : placeOf? l.places k = some p) : ∃ f ∈ fields, f.place = p := by
  have hmem := List.mem_of_find?_eq_some hp
  rwa [h.places, List.mem_map] at hmem

theorem Lists.placeOf?_name (h : l.Lists fields) (hd : Distinct l.places) {f : RecordField σ}
    (hf : f ∈ fields) : placeOf? l.places f.name = some f.place :=
  Json.placeOf?_name hd (by rw [h.places]; exact List.mem_map_of_mem hf)

/-- After a visit, the name of a field stands for one member at most. -/
theorem Lists.lookup_eq_get? (h : l.Lists fields) (hd : Distinct l.places)
    {members : List (String × Json)} (hvisit : ∃ other, visit l.places other [] members = .ok ())
    {f : RecordField σ} (hf : f ∈ fields) :
    Object.lookup f.name members = (Object.ofMembers members).get? f.name := by
  obtain ⟨_, hvisit⟩ := hvisit
  rw [Object.get?_ofMembers, lookup_reverse_of_visit hvisit (h.placeOf?_name hd hf)]

end Layout

/-! ## Records -/

/-- The wire form of a closed record with these fields. -/
def Codec.IsRecord (c : Codec Json σ) (fields : List (RecordField σ)) : Prop :=
  ∃ name l, c = .record name l ∧ l.Consists fields ∧ Distinct l.places

/-- The wire form of an open record with these fields, none of which has an alias. -/
def Codec.IsOpenRecord (c : Codec Json σ) (rest : σ → Object) (wire : σ → σ)
    (fields : List (RecordField σ)) : Prop :=
  ∃ name l, c = .openRecord name l rest ∧ l.ConsistsOpenly rest wire fields ∧
    Distinct l.places ∧ l.places.flatMap (·.aliases) = []

/-- A closed record is read from an object whose members it can visit, or from a list of its
fields. -/
theorem Codec.decode_record {name : String} {l : Layout Json σ σ} {j : Json} {s : σ}
    (h : (Codec.record name l).decode j = .ok s) :
    (∃ members, j = .object members ∧
      (∃ other, visit l.places other [] members = .ok ()) ∧
      l.read (.ofMembers members) = .ok s) ∨
    ∃ items, j = .array items ∧ l.read (.ofItems name l.places ⟨items, none⟩) = .ok s := by
  cases j with
  | object members =>
    have hread : l.readMembers _ ⟨members, none⟩ = .ok s := h
    obtain ⟨_, hv, hread⟩ := bind_eq_ok_iff.1 hread
    exact .inl ⟨members, rfl, ⟨_, hv⟩, hread⟩
  | array items =>
    have hitems : l.readItems name ⟨items, none⟩ = .ok s := h
    rw [Layout.readItems, bind_eq_ok_iff] at hitems
    obtain ⟨s', hread, hitems⟩ := hitems
    obtain ⟨_, _, hs⟩ := bind_eq_ok_iff.1 hitems
    obtain rfl : s' = s := Except.ok.inj hs
    exact .inr ⟨items, rfl, hread⟩
  | null => cases h
  | bool b => cases h
  | number n => cases h
  | string s => cases h

/-- An open record is read from an object whose members it can visit; it keeps those that it does
not know. -/
theorem Codec.decode_openRecord {name : String} {l : Layout Json σ (Object → σ)}
    {rest : σ → Object} {j : Json} {s : σ}
    (h : (Codec.openRecord name l rest).decode j = .ok s) :
    ∃ members, j = .object members ∧
      (∃ other, visit l.places other [] members = .ok ()) ∧
      ∃ build, l.read (.ofMembers members) = .ok build ∧
        s = build (Object.ofMembers (unknownMembers l.places members)) := by
  cases j with
  | object members =>
    obtain ⟨_, hnode, h⟩ := bind_eq_ok_iff.1 h
    cases hnode
    obtain ⟨build, hread, h⟩ := bind_eq_ok_iff.1 h
    obtain ⟨unknown, hu, h⟩ := bind_eq_ok_iff.1 h
    obtain ⟨_, hv, hread⟩ := bind_eq_ok_iff.1 hread
    rw [readMembers_json] at hu
    cases hu
    cases h
    exact ⟨members, rfl, ⟨_, hv⟩, build, hread, rfl⟩
  | array items => cases h
  | null => cases h
  | bool b => cases h
  | number n => cases h
  | string s => cases h

section
variable {fields : List (RecordField σ)}

/-- None of the members has the name of a field. -/
def Apart (fields : List (RecordField σ)) (o : Object) : Prop :=
  ∀ f ∈ fields, o.get? f.name = none

theorem Apart.get?_place {o : Object} (h : Apart fields o) {places : List (Place Json)}
    (hl : places = fields.map (·.place)) : ∀ p ∈ places, o.get? p.name = none := by
  intro p hp
  rw [hl] at hp
  obtain ⟨f, hf, rfl⟩ := List.mem_map.1 hp
  exact h f hf

end

end GeneralApplications.Json

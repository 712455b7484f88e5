import GeneralApplications.Proofs.Json.Fields

/-!
# Writing and reading back

A codec reads back a value that it has written (`Codec.RoundTrips`). For records this follows from
their layouts, which are taken apart as they are put together: `Layout.Suits` says what a layout
reads from the members of an object, `Layout.Restores` that this is what it has written. A field
that is left out may stand as `null` instead.

Main results:

* `decode_record_of_suits`, `decode_openRecord_of_suits`: a record is read if its layout suits the
  members.
* `roundTrips_record`, `decode_encode_openRecord`: a record is read back if its layout restores it.
-/

namespace GeneralApplications.Json

variable {α β σ : Type}

/-- The value is read back from what is written for it, and it is not written as `null`. -/
def Codec.RoundTrips (c : Codec Json α) (a : α) : Prop :=
  c.encode a ≠ .null ∧ c.decode (c.encode a) = .ok a

/-! ## Values -/

theorem roundTrips_string (s : String) : (Codec.string : Codec Json String).RoundTrips s :=
  ⟨nofun, rfl⟩

theorem roundTrips_bool (b : Bool) : (Codec.bool : Codec Json Bool).RoundTrips b :=
  ⟨nofun, rfl⟩

theorem roundTrips_object (o : Object) : (Codec.object : Codec Json Object).RoundTrips o := by
  refine ⟨nofun, ?_⟩
  have hread : (Codec.object : Codec Json Object).decode o.toJson =
      (do let ms ← readMembers o.entries; unbroken none; return Object.ofMembers ms) := rfl
  refine hread.trans ?_
  rw [readMembers_json]
  exact congrArg Except.ok o.ofMembers_entries

/-- Alternatives with different names are read back. -/
theorem roundTrips_named {all : List α} {name : α → String}
    (hn : ∀ a ∈ all, ∀ b ∈ all, name a = name b → a = b) {a : α} (ha : a ∈ all) :
    (Codec.named all name : Codec Json α).RoundTrips a := by
  refine ⟨nofun, ?_⟩
  have hread : (Codec.named all name : Codec Json α).decode (.string (name a)) =
      variant (all.map fun b => (name b, b)) (name a) := rfl
  refine hread.trans (variant_eq_ok_iff.2 ?_)
  cases hf : (all.map fun b => (name b, b)).find? (·.1 = name a) with
  | none =>
    have := List.find?_eq_none.1 hf (name a, a) (List.mem_map_of_mem ha)
    simp at this
  | some e =>
    obtain ⟨b, hb, rfl⟩ := List.mem_map.1 (List.mem_of_find?_eq_some hf)
    have hname : name b = name a := by simpa using List.find?_some hf
    exact ⟨_, rfl, hn b hb a ha hname⟩

theorem readList_encode {c : Codec Json α} {as : List α} (h : ∀ a ∈ as, c.RoundTrips a) :
    readList c.decode (.array (as.map c.encode)) = .ok as := by
  refine readList_eq_ok.2 ⟨_, rfl, ?_⟩
  rw [List.forall₂_map_left_iff, List.forall₂_same]
  exact fun a ha => (h a ha).2

/-- A list is read back if its items are. -/
theorem roundTrips_list {c : Codec Json α} {as : List α} (h : ∀ a ∈ as, c.RoundTrips a) :
    (Codec.list c).RoundTrips as :=
  ⟨nofun, readList_encode h⟩

/-! ## What a layout reads -/

/-- Where the members of an object have what `found` says under the names of the layout, they are
accepted and read as `a`. -/
structure Layout.Suits (l : Layout Json σ α) (found : String → Option Json) (a : α) : Prop where
  check : ∀ p ∈ l.places, ∀ t, found p.name = some t → p.check t = .ok ()
  read : ∀ members, (∀ p ∈ l.places, Object.lookup p.name members = found p.name ∧
    ∀ b ∈ p.aliases, Object.lookup b members = none) → l.read (.ofMembers members) = .ok a

namespace Layout

section
variable {found : String → Option Json}

theorem Suits.map {l : Layout Json σ α} {a : α} (h : l.Suits found a) (f : α → β) :
    (f <$> l).Suits found (f a) where
  check := h.check
  read members hm := read_map_eq_ok.2 ⟨a, h.read members hm, rfl⟩

theorem Suits.seq {l : Layout Json σ (α → β)} {m : Layout Json σ α} {g : α → β} {a : α}
    (hl : l.Suits found g) (hm : m.Suits found a) : (l <*> m).Suits found (g a) where
  check p hp := (List.mem_append.1 hp).elim (hl.check p) (hm.check p)
  read members h := by
    have hg := hl.read members fun p hp => h p (List.mem_append_left _ hp)
    have ha := hm.read members fun p hp => h p (List.mem_append_right _ hp)
    exact read_seq_eq_ok.2 ⟨g, hg, a, ha, rfl⟩

theorem check_place_eq_ok {name : String} {aliases : List String}
    {read : Json → Except Rejection α} {t : Json} {a : α} (h : read t = .ok a) :
    (place name aliases read).check t = .ok () := by
  simp [place, h, discard, Functor.discard, Functor.mapConst, Except.map]

/-- A layout of one place suits if what is found there can be read. -/
theorem suits_of_place {l : Layout Json σ α} {name : String} {aliases : List String}
    {read : Json → Except Rejection β} (hplaces : l.places = [place name aliases read])
    {a : α} (hcheck : ∀ t, found name = some t → ∃ b, read t = .ok b)
    (hread : ∀ members, (Findings.ofMembers members).find (place name aliases read) =
      .ok ((found name).map fun t => (.key name, t)) → l.read (.ofMembers members) = .ok a) :
    l.Suits found a where
  check p hp t ht := by
    rw [hplaces, List.mem_singleton] at hp
    subst hp
    obtain ⟨b, hb⟩ := hcheck t ht
    exact check_place_eq_ok hb
  read members hm := by
    obtain ⟨hlookup, ha⟩ := hm (place name aliases read) (by simp [hplaces])
    refine hread members ?_
    rw [find_ofMembers ha, hlookup]
    rfl

variable {name : String} {c : Codec Json α}

theorem suits_required {get : σ → α} {t : Json} {a : α} (ht : found name = some t)
    (ha : c.decode t = .ok a) : (required name get c).Suits found a := by
  refine suits_of_place rfl (fun u hu => ⟨a, ?_⟩) fun members hfind => ?_
  · rw [← Option.some.inj (ht.symm.trans hu), ha]
  · simp only [required, hfind, ht, bind, Except.bind, Option.map_some, readFound, ha, within_ok]

theorem suits_optional {get : σ → Option α} {a : Option α}
    (h : (found name = none ∧ a = none) ∨
      ∃ t, found name = some t ∧ readOption c.decode t = .ok a) :
    (optional name get c).Suits found a := by
  refine suits_of_place rfl (fun u hu => ?_) fun members hfind => ?_
  · rcases h with ⟨hnone, _⟩ | ⟨t, ht, hread⟩
    · cases hnone.symm.trans hu
    · exact ⟨a, by rw [← Option.some.inj (ht.symm.trans hu), hread]⟩
  · simp only [optional, hfind]
    rcases h with ⟨hnone, rfl⟩ | ⟨t, ht, hread⟩
    · simp [hnone, bind, Except.bind]
    · simp [ht, bind, Except.bind, readFound, hread]

theorem suits_collection {get : σ → List α} {as : List α}
    (h : (found name = none ∧ as = []) ∨
      ∃ t, found name = some t ∧ (·.getD []) <$> readOption (readList c.decode) t = .ok as) :
    (collection name get c).Suits found as := by
  refine suits_of_place rfl (fun u hu => ?_) fun members hfind => ?_
  · rcases h with ⟨hnone, _⟩ | ⟨t, ht, hread⟩
    · cases hnone.symm.trans hu
    · exact ⟨as, by rw [← Option.some.inj (ht.symm.trans hu), hread]⟩
  · simp only [collection, hfind]
    rcases h with ⟨hnone, rfl⟩ | ⟨t, ht, hread⟩
    · simp [hnone, bind, Except.bind]
    · simp [ht, bind, Except.bind, readFound, hread]

theorem suits_defaulted {aliases : List String} {default : α} {get : σ → α} {t : Json} {a : α}
    (ht : found name = some t) (ha : c.decode t = .ok a) :
    (defaulted name aliases default get c).Suits found a := by
  refine suits_of_place rfl (fun u hu => ⟨a, ?_⟩) fun members hfind => ?_
  · rw [← Option.some.inj (ht.symm.trans hu), ha]
  · simp only [defaulted, hfind, ht, bind, Except.bind, Option.map_some, readFound, ha, within_ok]

end

/-! ## What a layout restores -/

/-- What is found under a name is what was written under it; where nothing was written, `null` may
be found. -/
def Found (found : String → Option Json) (w : String × Option Json) : Prop :=
  found w.1 = w.2 ∨ (w.2 = none ∧ found w.1 = some .null)

/-- Wherever the layout finds what it has written for `s`, it reads `a`. Nothing is written as
`null`. -/
structure Restores (l : Layout Json σ α) (s : σ) (a : α) : Prop where
  names : (l.write s).map (·.1) = l.places.map (·.name)
  ne_null : ∀ w ∈ l.write s, w.2 ≠ some .null
  suits : ∀ found, (∀ w ∈ l.write s, Found found w) → l.Suits found a

section
variable {s : σ}

theorem Restores.of_eq {l : Layout Json σ α} {a b : α} (hab : a = b) (h : l.Restores s a) :
    l.Restores s b :=
  hab ▸ h

theorem Restores.map {l : Layout Json σ α} {a : α} (h : l.Restores s a) (f : α → β) :
    (f <$> l).Restores s (f a) where
  names := h.names
  ne_null := h.ne_null
  suits found hfound := (h.suits found hfound).map f

theorem Restores.seq {l : Layout Json σ (α → β)} {m : Layout Json σ α} {g : α → β} {a : α}
    (hl : l.Restores s g) (hm : m.Restores s a) : (l <*> m).Restores s (g a) where
  names := by
    have hwrite : (l <*> m).write s = l.write s ++ m.write s := rfl
    have hplaces : (l <*> m).places = l.places ++ m.places := rfl
    rw [hwrite, hplaces, List.map_append, List.map_append, hl.names, hm.names]
  ne_null w hw := (List.mem_append.1 hw).elim (hl.ne_null w) (hm.ne_null w)
  suits found hfound :=
    (hl.suits found fun w hw => hfound w (List.mem_append_left _ hw)).seq
      (hm.suits found fun w hw => hfound w (List.mem_append_right _ hw))

variable {name : String} {c : Codec Json α}

/-- A value that was written is found. -/
theorem Found.eq_some {found : String → Option Json} {t : Json}
    (h : Found found (name, some t)) : found name = some t :=
  h.resolve_right fun h => by cases h.1

theorem Restores.required {get : σ → α} (h : c.RoundTrips (get s)) :
    (Layout.required name get c).Restores s (get s) where
  names := rfl
  ne_null := List.forall_mem_singleton.2 fun hnull => h.1 (Option.some.inj hnull)
  suits _ hfound := suits_required (hfound _ (List.mem_singleton_self _)).eq_some h.2

theorem Restores.defaulted {aliases : List String} {default : α} {get : σ → α}
    (h : c.RoundTrips (get s)) :
    (Layout.defaulted name aliases default get c).Restores s (get s) where
  names := rfl
  ne_null := List.forall_mem_singleton.2 fun hnull => h.1 (Option.some.inj hnull)
  suits _ hfound := suits_defaulted (hfound _ (List.mem_singleton_self _)).eq_some h.2

theorem Restores.optional {get : σ → Option α} (h : ∀ a, get s = some a → c.RoundTrips a) :
    (Layout.optional name get c).Restores s (get s) where
  names := rfl
  ne_null := List.forall_mem_singleton.2 fun hnull => by
    obtain ⟨a, ha, hnull⟩ := Option.map_eq_some_iff.1 hnull
    exact (h a ha).1 hnull
  suits found hfound := by
    have hw : Found found (name, (get s).map c.encode) := hfound _ (List.mem_singleton_self _)
    refine suits_optional ?_
    cases ha : get s with
    | none =>
      rw [ha] at hw
      rcases hw with hnone | ⟨_, hnull⟩
      · exact .inl ⟨hnone, rfl⟩
      · exact .inr ⟨_, hnull, rfl⟩
    | some a =>
      rw [ha] at hw
      have hread : readOption c.decode (c.encode a) = .ok (some a) := by
        rw [readOption_json (h a ha).1, (h a ha).2]
        rfl
      exact .inr ⟨_, hw.eq_some, hread⟩

theorem Restores.collection {get : σ → List α} (h : ∀ a ∈ get s, c.RoundTrips a) :
    (Layout.collection name get c).Restores s (get s) where
  names := rfl
  ne_null := List.forall_mem_singleton.2 fun hnull => by
    by_cases he : (get s).isEmpty
    · simp [he] at hnull
    · simp [he] at hnull
  suits found hfound := by
    have hw : Found found (name, if (get s).isEmpty then none
        else some (.array ((get s).map c.encode))) := hfound _ (List.mem_singleton_self _)
    refine suits_collection ?_
    by_cases he : (get s).isEmpty
    · rw [if_pos he] at hw
      have hnil : get s = [] := List.isEmpty_iff.1 he
      rcases hw with hnone | ⟨_, hnull⟩
      · exact .inl ⟨hnone, hnil⟩
      · exact .inr ⟨_, hnull, congrArg Except.ok hnil.symm⟩
    · rw [if_neg he] at hw
      have hne : Json.array ((get s).map c.encode) ≠ .null := nofun
      refine .inr ⟨_, hw.eq_some, ?_⟩
      rw [readOption_json hne, readList_encode h]
      rfl

end

end Layout

/-! ## Reading records -/

/-- A visit succeeds if no key occurs twice, and every member suits its place, if it has one, and
passes otherwise. -/
theorem visit_eq_ok {places : List (Place Json)} {other : Json → Except Rejection Unit}
    {seen : List String} {members : List (String × Json)} (hn : (members.map (·.1)).Nodup)
    (hseen : ∀ m ∈ members, m.1 ∉ seen)
    (hplace : ∀ m ∈ members, ∀ p, placeOf? places m.1 = some p →
      p.name = m.1 ∧ p.check m.2 = .ok ())
    (hother : ∀ t, other t = .ok ()) : visit places other seen members = .ok () := by
  induction members generalizing seen with
  | nil => rfl
  | cons m rest ih =>
    obtain ⟨k, t⟩ := m
    rw [List.map_cons, List.nodup_cons] at hn
    simp only [List.forall_mem_cons] at hseen hplace
    simp only [visit]
    cases hp : placeOf? places k with
    | none => simpa [hother, bind, Except.bind] using ih hn.2 hseen.2 hplace.2
    | some p =>
      obtain ⟨rfl, hc⟩ := hplace.1 p hp
      have hrest : ∀ m ∈ rest, m.1 ∉ p.name :: seen := by
        intro m hm he
        rcases List.mem_cons.1 he with he | he
        · exact hn.1 (List.mem_map.2 ⟨m, hm, he⟩)
        · exact hseen.2 m hm he
      simp [hseen.1, hc, bind, Except.bind, ih hn.2 hrest hplace.2]

theorem Object.keys_nodup (o : Object) : (o.entries.map (·.1)).Nodup := by
  refine List.Pairwise.imp ?_ o.keys_sorted
  rintro k _ h rfl
  exact String.lt_irrefl k h

/-- None of the members stands under an alias. -/
def Unaliased (places : List (Place Json)) (o : Object) : Prop :=
  ∀ p ∈ places, ∀ b ∈ p.aliases, o.get? b = none

theorem Unaliased.of_nil {places : List (Place Json)} (h : places.flatMap (·.aliases) = [])
    (o : Object) : Unaliased places o := by
  intro p hp b hb
  rw [List.flatMap_eq_nil_iff.1 h p hp] at hb
  cases hb

section
variable {o : Object}

/-- The members of an object that suits a layout can be read with it, if all others pass. -/
theorem Layout.Suits.readMembers {l : Layout Json σ α} {a : α} (h : l.Suits o.get? a)
    (ha : Unaliased l.places o) {other : Json → Except Rejection Unit}
    (hother : ∀ t, other t = .ok ()) : l.readMembers other ⟨o.entries, none⟩ = .ok a := by
  have hplace : ∀ m ∈ o.entries, ∀ p, placeOf? l.places m.1 = some p →
      p.name = m.1 ∧ p.check m.2 = .ok () := by
    intro m hm p hp
    have hmem := List.mem_of_find?_eq_some hp
    have hget : o.get? m.1 = some m.2 := Object.get?_eq_some_iff.2 hm
    have hname : p.name = m.1 := by
      by_contra hne
      have halias : m.1 ∈ p.aliases := by simpa [hne] using List.find?_some hp
      cases hget.symm.trans (ha p hmem _ halias)
    exact ⟨hname, h.check p hmem _ (by rw [hname, hget])⟩
  have hvisit : visit l.places other [] o.entries = .ok () :=
    visit_eq_ok o.keys_nodup (by simp) hplace hother
  have hread : l.read (.ofMembers o.entries) = .ok a :=
    h.read o.entries fun p hp => ⟨rfl, ha p hp⟩
  simp only [Layout.readMembers, hvisit, unbroken, bind, Except.bind, hread]

/-- A closed record is read from an object that suits its layout. -/
theorem decode_record_of_suits {name : String} {l : Layout Json σ σ} {s : σ}
    (h : l.Suits o.get? s) (ha : Unaliased l.places o) :
    (Codec.record name l).decode o.toJson = .ok s :=
  h.readMembers ha fun _ => rfl

/-- An open record is read from an object that suits its layout, and keeps what is not found
there. -/
theorem decode_openRecord_of_suits {name : String} {l : Layout Json σ (Object → σ)}
    {rest : σ → Object} {build : Object → σ} (h : l.Suits o.get? build)
    (ha : Unaliased l.places o) :
    (Codec.openRecord name l rest).decode o.toJson =
      .ok (build (.ofMembers (unknownMembers l.places o.entries))) := by
  have hread := h.readMembers ha fun t : Json =>
    show discard (lift (Readable.free t)) = .ok () from rfl
  simp only [Codec.openRecord, Object.toJson, Readable.node, lift_ok, bind, Except.bind, hread,
    readMembers_json, pure, Except.pure]

/-- The further members of an object are those that a record holds beside its fields. -/
theorem unknownMembers_eq {places : List (Place Json)} (ha : places.flatMap (·.aliases) = [])
    {rest : Object} (hrest : ∀ p ∈ places, rest.get? p.name = none)
    (ho : ∀ k, k ∉ places.map (·.name) → o.get? k = rest.get? k) :
    Object.ofMembers (unknownMembers places o.entries) = rest := by
  refine Object.ext_get? fun k => ?_
  cases hp : placeOf? places k with
  | some p =>
    rw [get?_unknownMembers_of_place hp, ← name_of_placeOf? ha hp,
      hrest p (List.mem_of_find?_eq_some hp)]
  | none =>
    have hk : k ∉ places.map (·.name) := by
      intro hk
      obtain ⟨q, hq, rfl⟩ := List.mem_map.1 hk
      simpa using List.find?_eq_none.1 hp q hq
    rw [get?_unknownMembers_of_none hp, Object.ofMembers_entries, ho k hk]

end

/-! ## Reading records back -/

section
variable {s : σ}

/-- Under the names of a layout, the object of a record has what the layout writes. -/
theorem Layout.Restores.get?_object {l : Layout Json σ α} {a : α} (h : l.Restores s a)
    (hd : Distinct l.places) {w : String × Option Json} (hw : w ∈ l.write s) :
    (l.object s).get? w.1 = w.2 := by
  have hn : ((l.write s).map (·.1)).Nodup := by
    rw [h.names]
    exact hd.1
  exact Layout.get?_object_of_mem hn hw

/-- Under other names it has nothing. -/
theorem Layout.Restores.get?_object_eq_none {l : Layout Json σ α} {a : α} (h : l.Restores s a)
    {k : String} (hk : k ∉ l.places.map (·.name)) : (l.object s).get? k = none :=
  Layout.get?_object_of_not_mem (h.names ▸ hk)

/-- A closed record is read back if its layout restores it. -/
theorem roundTrips_record {name : String} {l : Layout Json σ σ} (hd : Distinct l.places)
    (h : l.Restores s s) : (Codec.record name l).RoundTrips s := by
  have hsuits : l.Suits (l.object s).get? s :=
    h.suits _ fun w hw => .inl (h.get?_object hd hw)
  have ha : Unaliased l.places (l.object s) := fun p hp b hb =>
    h.get?_object_eq_none (hd.2 b (List.mem_flatMap.2 ⟨p, hp, hb⟩))
  exact ⟨nofun, decode_record_of_suits hsuits ha⟩

/-- An open record is read back if its layout restores it and its further members are apart from
its fields. -/
theorem decode_encode_openRecord {name : String} {l : Layout Json σ (Object → σ)}
    {rest : σ → Object} {build : Object → σ} {fields : List (RecordField σ)}
    (hl : l.places = fields.map (·.place)) (hd : Distinct l.places)
    (ha : l.places.flatMap (·.aliases) = []) (h : l.Restores s build)
    (hrest : Apart fields (rest s)) :
    (Codec.openRecord name l rest).decode ((Codec.openRecord name l rest).encode s) =
      .ok (build (rest s)) := by
  generalize ho : (l.object s).override (rest s) = o
  have hget : ∀ w ∈ l.write s, o.get? w.1 = w.2 := by
    intro w hw
    have hmem : w.1 ∈ l.places.map (·.name) := h.names ▸ List.mem_map_of_mem hw
    obtain ⟨p, hp, hname⟩ := List.mem_map.1 hmem
    rw [← ho, Object.get?_override, ← hname, hrest.get?_place hl p hp, hname,
      h.get?_object hd hw]
    rfl
  have hunknown : Object.ofMembers (unknownMembers l.places o.entries) = rest s := by
    refine unknownMembers_eq ha (hrest.get?_place hl) fun k hk => ?_
    rw [← ho, Object.get?_override, h.get?_object_eq_none hk, Option.or_none]
  have hsuits : l.Suits o.get? build := h.suits _ fun w hw => .inl (hget w hw)
  show (Codec.openRecord name l rest).decode (((l.object s).override (rest s)).toJson) = _
  rw [ho, decode_openRecord_of_suits hsuits (.of_nil ha o), hunknown]

end

end GeneralApplications.Json

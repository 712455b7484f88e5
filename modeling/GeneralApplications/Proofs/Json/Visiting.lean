import GeneralApplications.Proofs.Json.RoundTrip

/-!
# Reading objects key by key

An object has each of its keys once, so a reader that visits its members meets no place twice: it
checks the members one after another, in the order of their keys (`visit_entries`). Members without
a place pass. What is left of a visit are the checks of the known keys (`visit_known`).

Two objects that differ under one key only are read alike by an open record whose field of that name
cannot tell the two values apart (`Codec.decode_openRecord_insert`).
-/

namespace GeneralApplications.Json

variable {α β σ : Type} {places : List (Place Json)} {other : Json → Except Rejection Unit}

/-! ## Visits -/

/-- What a visit says about a member whose place it has not met. -/
def checkMember (places : List (Place Json)) (m : String × Json) : Except Rejection Unit :=
  match placeOf? places m.1 with
  | some p => within (.key m.1) (p.check m.2)
  | none => .ok ()

/-- A visit of members with different keys checks them one after another. -/
theorem visit_eq_forM (ha : places.flatMap (·.aliases) = []) (hother : ∀ t, other t = .ok ())
    {members : List (String × Json)} (hn : (members.map (·.1)).Nodup) {seen : List String}
    (hseen : ∀ m ∈ members, m.1 ∉ seen) :
    visit places other seen members = members.forM (checkMember places) := by
  induction members generalizing seen with
  | nil => rfl
  | cons m members ih =>
    obtain ⟨k, t⟩ := m
    rw [List.map_cons, List.nodup_cons] at hn
    have hrest : ∀ m ∈ members, m.1 ∉ seen := fun m hm => hseen m (List.mem_cons_of_mem _ hm)
    show visit places other seen ((k, t) :: members) =
      checkMember places (k, t) >>= fun _ => members.forM (checkMember places)
    unfold visit checkMember
    cases hp : placeOf? places k with
    | none =>
      simp only [hother]
      exact ih hn.2 hrest
    | some p =>
      have hname : p.name = k := name_of_placeOf? ha hp
      have hnew : seen.contains p.name = false := by
        rw [hname]
        simpa using hseen (k, t) (List.mem_cons_self ..)
      simp only [hnew, Bool.false_eq_true, if_false]
      congr 1
      funext _
      refine ih hn.2 fun m hm => ?_
      rw [hname, List.mem_cons, not_or]
      refine ⟨fun hk => hn.1 ?_, hrest m hm⟩
      exact List.mem_map.2 ⟨m, hm, hk⟩

theorem visit_entries (ha : places.flatMap (·.aliases) = []) (hother : ∀ t, other t = .ok ())
    (o : Object) : visit places other [] o.entries = o.entries.forM (checkMember places) :=
  visit_eq_forM ha hother o.keys_nodup (by simp)

/-- What a visit says about the member with a key, if there is one. -/
def checkAt (places : List (Place Json)) (o : Object) (k : String) : Except Rejection Unit :=
  match o.get? k with
  | some t => checkMember places (k, t)
  | none => .ok ()

section
variable {ε : Type} {check : α → Except ε Unit}

/-- Parts that pass make no difference to a sequence of checks. -/
theorem forM_filter (keep : α → Bool) {as : List α}
    (h : ∀ a ∈ as, keep a = false → check a = .ok ()) :
    (as.filter keep).forM check = as.forM check := by
  induction as with
  | nil => rfl
  | cons a as ih =>
    have hrest := ih fun b hb => h b (List.mem_cons_of_mem _ hb)
    show _ = check a >>= fun _ => as.forM check
    cases hkeep : keep a with
    | true =>
      rw [List.filter_cons_of_pos hkeep]
      show (check a >>= fun _ => (as.filter keep).forM check) = _
      rw [hrest]
    | false =>
      rw [List.filter_cons_of_neg (by simp [hkeep]), hrest, h a (List.mem_cons_self ..) hkeep]
      rfl

theorem forM_congr {check' : α → Except ε Unit} {as : List α}
    (h : ∀ a ∈ as, check a = check' a) : as.forM check = as.forM check' := by
  induction as with
  | nil => rfl
  | cons a as ih =>
    show (check a >>= fun _ => as.forM check) = check' a >>= fun _ => as.forM check'
    rw [h a (List.mem_cons_self ..), ih fun b hb => h b (List.mem_cons_of_mem _ hb)]

theorem forM_filterMap (f : β → Option α) (bs : List β) :
    (bs.filterMap f).forM check = bs.forM fun b =>
      match f b with
      | some a => check a
      | none => .ok () := by
  induction bs with
  | nil => rfl
  | cons b bs ih =>
    show _ = _ >>= fun _ => List.forM bs _
    cases hf : f b with
    | none =>
      rw [List.filterMap_cons_none hf, ih]
      simp only [hf]
      rfl
    | some a =>
      rw [List.filterMap_cons_some hf]
      show (check a >>= fun _ => (bs.filterMap f).forM check) = _
      simp only [hf, ih]

end

/-- The members with some keys, listed in increasing order, are found by look-ups. -/
theorem Object.filter_entries {keys : List String} (hkeys : keys.Pairwise (· < ·)) (o : Object) :
    o.entries.filter (fun m => decide (m.1 ∈ keys)) =
      keys.filterMap fun k => (o.get? k).map fun t => (k, t) := by
  have hsorted : (keys.filterMap fun k => (o.get? k).map fun t => (k, t)).Pairwise
      fun a b => a.1 < b.1 := by
    refine List.Pairwise.filterMap _ (fun j k hjk a ha b hb => ?_) hkeys
    obtain ⟨t, -, rfl⟩ := Option.map_eq_some_iff.1 ha
    obtain ⟨u, -, rfl⟩ := Option.map_eq_some_iff.1 hb
    exact hjk
  refine entries_ext (o.sorted.filter _) hsorted fun k => Option.ext fun v => ?_
  rw [lookup_eq_some_iff (o.sorted.filter _), lookup_eq_some_iff hsorted, List.mem_filter,
    List.mem_filterMap, decide_eq_true_iff, ← get?_eq_some_iff]
  constructor
  · rintro ⟨hv, hk⟩
    exact ⟨k, hk, by rw [hv]; rfl⟩
  · rintro ⟨j, hj, hmap⟩
    obtain ⟨t, ht, hjt⟩ := Option.map_eq_some_iff.1 hmap
    cases hjt
    exact ⟨ht, hj⟩

/-- A visit of an object checks the known keys in their order. -/
theorem visit_known (ha : places.flatMap (·.aliases) = []) (hother : ∀ t, other t = .ok ())
    {keys : List String} (hkeys : keys.Pairwise (· < ·))
    (hknown : ∀ k ∉ keys, placeOf? places k = none) (o : Object) :
    visit places other [] o.entries = keys.forM (checkAt places o) := by
  rw [visit_entries ha hother, ← forM_filter fun m => decide (m.1 ∈ keys),
    Object.filter_entries hkeys, forM_filterMap]
  · congr 1
    funext k
    unfold checkAt
    cases o.get? k <;> rfl
  · intro m _ hm
    unfold checkMember
    rw [hknown m.1 (by simpa using hm)]

/-! ## One member exchanged -/

namespace Object

/-- The member with its value replaced, if it has a given key. -/
def exchange (k : String) (t : Json) (m : String × Json) : String × Json :=
  if m.1 = k then (k, t) else m

theorem map_exchange_of_ne {k : String} {members : List (String × Json)}
    (h : ∀ m ∈ members, m.1 ≠ k) (t : Json) : members.map (exchange k t) = members :=
  (List.map_congr_left fun m hm => if_neg (h m hm)).trans (List.map_id _)

theorem place_eq_map {k : String} {u : Json} {members : List (String × Json)}
    (hsorted : members.Pairwise fun a b => a.1 < b.1) (h : lookup k members = some u) (t : Json) :
    place k t members = members.map (exchange k t) := by
  induction members with
  | nil => cases h
  | cons m members ih =>
    obtain ⟨j, v⟩ := m
    obtain ⟨hfirst, hrest⟩ := List.pairwise_cons.1 hsorted
    rw [List.map_cons]
    unfold place
    split
    next hlt =>
      rw [lookup_eq_none_of_lt] at h
      · cases h
      · rw [List.forall_mem_cons]
        exact ⟨hlt, fun m hm => String.lt_trans hlt (hfirst m hm)⟩
    next hnot =>
      split
      next hgt =>
        have hne : j ≠ k := fun he => String.lt_irrefl k (he ▸ hgt)
        rw [lookup, if_neg hne] at h
        rw [ih hrest h]
        exact congrArg (· :: _) (if_neg hne).symm
      next hle =>
        have hjk : j = k := String.le_antisymm (String.not_lt.1 hnot) (String.not_lt.1 hle)
        subst hjk
        have hne : ∀ m ∈ members, m.1 ≠ j := by
          intro m hm he
          have hlt : j < m.1 := hfirst m hm
          rw [he] at hlt
          exact String.lt_irrefl j hlt
        rw [map_exchange_of_ne hne]
        exact congrArg (· :: _) (if_pos rfl).symm

/-- To set a key that has a value is to exchange its member. -/
theorem entries_insert {o : Object} {k : String} {u : Json} (h : o.get? k = some u) (t : Json) :
    (o.insert k t).entries = o.entries.map (exchange k t) :=
  place_eq_map o.sorted h t

end Object

/-- The member of an exchanged object passes its check exactly like the one before. -/
theorem checkMember_exchange {k : String} {t u : Json} {p : Place Json}
    (hp : placeOf? places k = some p) (hcheck : p.check t = p.check u) {m : String × Json}
    (hm : m.1 = k → m.2 = u) :
    checkMember places (Object.exchange k t m) = checkMember places m := by
  unfold Object.exchange
  split
  next hk =>
    obtain ⟨j, v⟩ := m
    obtain rfl : v = u := hm hk
    obtain rfl : j = k := hk
    unfold checkMember
    simp only [hp, hcheck]
  next => rfl

/-- Members without a place are not exchanged. -/
theorem unknownMembers_exchange {k : String} {t : Json} {p : Place Json}
    (hp : placeOf? places k = some p) (members : List (String × Json)) :
    unknownMembers places (members.map (Object.exchange k t)) = unknownMembers places members := by
  unfold unknownMembers
  induction members with
  | nil => rfl
  | cons m members ih =>
    rw [List.map_cons]
    by_cases hk : m.1 = k
    · have hex : Object.exchange k t m = (k, t) := if_pos hk
      rw [hex, List.filter_cons_of_neg (by simp [hp]), List.filter_cons_of_neg (by simp [hk, hp]),
        ih]
    · have hex : Object.exchange k t m = m := if_neg hk
      rw [hex, List.filter_cons, List.filter_cons, ih]

/-! ## Layouts that read alike -/

/-- The layout reads the same from two lists of members. -/
def Layout.ReadsAlike (a b : List (String × Json)) (l : Layout Json σ α) : Prop :=
  l.read (.ofMembers a) = l.read (.ofMembers b)

theorem Layout.read_map (f : α → β) (l : Layout Json σ α) (fs : Findings Json) :
    (f <$> l).read fs = (do let a ← l.read fs; return f a) := rfl

theorem Layout.read_seq (l : Layout Json σ (α → β)) (m : Layout Json σ α) (fs : Findings Json) :
    (l <*> m).read fs = (do let g ← l.read fs; let a ← m.read fs; return g a) := rfl

namespace Layout.ReadsAlike

variable {a b : List (String × Json)} {name : String}

theorem map {l : Layout Json σ α} (h : l.ReadsAlike a b) (f : α → β) :
    (f <$> l).ReadsAlike a b := by
  unfold ReadsAlike
  rw [read_map, read_map, h]

theorem seq {l : Layout Json σ (α → β)} {m : Layout Json σ α} (hl : l.ReadsAlike a b)
    (hm : m.ReadsAlike a b) : (l <*> m).ReadsAlike a b := by
  unfold ReadsAlike
  rw [read_seq, read_seq, hl, hm]

theorem optional {get : σ → Option α} {c : Codec Json α}
    (h : Object.lookup name a = Object.lookup name b) :
    (Layout.optional name get c).ReadsAlike a b := by
  simp only [ReadsAlike, Layout.optional, Layout.place, RecordField.find_place, h]

theorem collection {get : σ → List α} {c : Codec Json α}
    (h : Object.lookup name a = Object.lookup name b) :
    (Layout.collection name get c).ReadsAlike a b := by
  simp only [ReadsAlike, Layout.collection, Layout.place, RecordField.find_place, h]

/-- A field reads two values alike that are decoded alike. -/
theorem optional_of_decode {get : σ → Option α} {c : Codec Json α} {t u : Json}
    (ht : Object.lookup name a = some t) (hu : Object.lookup name b = some u)
    (h : readOption c.decode t = readOption c.decode u) :
    (Layout.optional name get c).ReadsAlike a b := by
  simp only [ReadsAlike, Layout.optional, Layout.place, RecordField.find_place, ht, hu,
    Option.map_some, bind, Except.bind, readFound, h]

end Layout.ReadsAlike

/-- An open record is decoded alike from two objects that differ under the name of a field, if this
field checks and reads the two values alike. -/
theorem Codec.decode_openRecord_insert {name : String} {l : Layout Json σ (Object → σ)}
    {rest : σ → Object} (ha : l.places.flatMap (·.aliases) = []) {o : Object} {k : String}
    {t u : Json} {p : Place Json} (hu : o.get? k = some u) (hp : placeOf? l.places k = some p)
    (hcheck : p.check t = p.check u)
    (hread : l.ReadsAlike (o.insert k t).entries o.entries) :
    (Codec.openRecord name l rest).decode (o.insert k t).toJson =
      (Codec.openRecord name l rest).decode o.toJson := by
  have hsame : ∀ m ∈ o.entries, checkMember l.places (Object.exchange k t m) =
      checkMember l.places m := by
    intro m hm
    refine checkMember_exchange hp hcheck fun hk => ?_
    have hm : o.get? m.1 = some m.2 := Object.get?_eq_some_iff.2 hm
    rw [hk, hu] at hm
    exact (Option.some.inj hm).symm
  have hunknown : unknownMembers l.places (o.insert k t).entries =
      unknownMembers l.places o.entries := by
    rw [Object.entries_insert hu, unknownMembers_exchange hp]
  have hbuild : ∀ other, (∀ t : Json, other t = .ok ()) →
      l.readMembers other ⟨(o.insert k t).entries, none⟩ =
        l.readMembers other ⟨o.entries, none⟩ := by
    intro other hother
    have hvisit : visit l.places other [] (o.insert k t).entries =
        visit l.places other [] o.entries := by
      rw [visit_entries ha hother, visit_entries ha hother, Object.entries_insert hu]
      exact List.forM_map.trans (forM_congr hsame)
    unfold Layout.readMembers
    dsimp only
    rw [hvisit, hread]
  show (do
    let build ← l.readMembers _ ⟨(o.insert k t).entries, none⟩
    let unknown ← readMembers (unknownMembers l.places (o.insert k t).entries)
    return build (Object.ofMembers unknown)) = _
  rw [hbuild (fun t => discard (lift (Readable.free t))) fun _ => rfl, hunknown]
  rfl

end GeneralApplications.Json

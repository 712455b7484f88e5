import GeneralApplications.Json.Basic

/-!
# Free objects

A free object maps keys to values and keeps its keys in strictly increasing order, so that equal
maps are equal objects (`ext_get?`). Each operation is described by what it does to look-ups:
`get?_insert`, `get?_erase`, `get?_ofMembers`, `get?_override`.
-/

namespace GeneralApplications.Json

/-- An object whose keys are listed once each, in increasing order. -/
structure Object where
  entries : List (String × Json)
  sorted : entries.Pairwise fun a b => a.1 < b.1

namespace Object

theorem entries_injective {a b : Object} (h : a.entries = b.entries) : a = b := by
  cases a; cases b; simpa using h

instance : DecidableEq Object := fun a b =>
  if h : a.entries = b.entries then isTrue (entries_injective h)
  else isFalse fun hab => h (by rw [hab])

instance : Repr Object := ⟨fun o n => reprPrec o.entries n⟩

/-- The object without members. -/
def empty : Object := ⟨[], .nil⟩

instance : EmptyCollection Object := ⟨empty⟩
instance : Inhabited Object := ⟨empty⟩

/-! ## Look-ups -/

/-- The value of a key in a list of members: the first one with that key. -/
def lookup (k : String) : List (String × Json) → Option Json
  | [] => none
  | (j, v) :: rest => if j = k then some v else lookup k rest

/-- The value of a key. -/
def get? (o : Object) (k : String) : Option Json :=
  lookup k o.entries

/-- The key has a value. -/
def contains (o : Object) (k : String) : Bool :=
  (o.get? k).isSome

/-- The keys in increasing order. -/
def keys (o : Object) : List String :=
  o.entries.map (·.1)

/-! ## Operations -/

/-- A member put into an ordered list of members; a member with the same key gives way to it. -/
def place (k : String) (v : Json) : List (String × Json) → List (String × Json)
  | [] => [(k, v)]
  | (j, w) :: rest =>
    if k < j then (k, v) :: (j, w) :: rest
    else if j < k then (j, w) :: place k v rest
    else (k, v) :: rest

theorem mem_place {k : String} {v : Json} {m : String × Json} {l : List (String × Json)}
    (h : m ∈ place k v l) : m = (k, v) ∨ m ∈ l := by
  induction l with
  | nil => simpa [place] using h
  | cons e r ih =>
    unfold place at h
    split at h
    · simpa using h
    · split at h
      · rcases List.mem_cons.1 h with h | h
        · simp [h]
        · rcases ih h with h | h <;> simp [h]
      · rcases List.mem_cons.1 h with h | h <;> simp [h]

theorem sorted_place {k : String} {v : Json} {l : List (String × Json)}
    (h : l.Pairwise fun a b => a.1 < b.1) : (place k v l).Pairwise fun a b => a.1 < b.1 := by
  induction l with
  | nil => simp [place]
  | cons e r ih =>
    obtain ⟨j, w⟩ := e
    rw [List.pairwise_cons] at h
    unfold place
    split
    next hlt =>
      refine List.pairwise_cons.2 ⟨?_, List.pairwise_cons.2 h⟩
      intro m hm
      rcases List.mem_cons.1 hm with rfl | hm
      · exact hlt
      · exact String.lt_trans hlt (h.1 m hm)
    next hlt =>
      split
      next hgt =>
        refine List.pairwise_cons.2 ⟨?_, ih h.2⟩
        intro m hm
        rcases mem_place hm with rfl | hm
        · exact hgt
        · exact h.1 m hm
      next hgt =>
        have hjk : j = k := String.le_antisymm (String.not_lt.1 hlt) (String.not_lt.1 hgt)
        subst hjk
        exact List.pairwise_cons.2 ⟨h.1, h.2⟩

/-- The object with a key set to a value. -/
def insert (o : Object) (k : String) (v : Json) : Object :=
  ⟨place k v o.entries, sorted_place o.sorted⟩

/-- The object without a key. -/
def erase (o : Object) (k : String) : Object :=
  ⟨o.entries.filter (fun m => m.1 ≠ k), o.sorted.filter _⟩

/-- A member put into an ordered list of members unless there is one with the same key. -/
def placeNew (k : String) (v : Json) : List (String × Json) → List (String × Json)
  | [] => [(k, v)]
  | (j, w) :: rest =>
    if k < j then (k, v) :: (j, w) :: rest
    else if j < k then (j, w) :: placeNew k v rest
    else (j, w) :: rest

theorem mem_placeNew {k : String} {v : Json} {m : String × Json} {l : List (String × Json)}
    (h : m ∈ placeNew k v l) : m = (k, v) ∨ m ∈ l := by
  induction l with
  | nil => simpa [placeNew] using h
  | cons e r ih =>
    unfold placeNew at h
    split at h
    · simpa using h
    · split at h
      · rcases List.mem_cons.1 h with h | h
        · simp [h]
        · rcases ih h with h | h <;> simp [h]
      · exact .inr h

theorem sorted_placeNew {k : String} {v : Json} {l : List (String × Json)}
    (h : l.Pairwise fun a b => a.1 < b.1) :
    (placeNew k v l).Pairwise fun a b => a.1 < b.1 := by
  induction l with
  | nil => simp [placeNew]
  | cons e r ih =>
    obtain ⟨j, w⟩ := e
    have hr := List.pairwise_cons.1 h
    unfold placeNew
    split
    next hlt =>
      refine List.pairwise_cons.2 ⟨?_, h⟩
      intro m hm
      rcases List.mem_cons.1 hm with rfl | hm
      · exact hlt
      · exact String.lt_trans hlt (hr.1 m hm)
    next hlt =>
      split
      next hgt =>
        refine List.pairwise_cons.2 ⟨?_, ih hr.2⟩
        intro m hm
        rcases mem_placeNew hm with rfl | hm
        · exact hgt
        · exact hr.1 m hm
      next hgt => exact h

/-- The object with a key set unless it has a value already. -/
def insertNew (o : Object) (k : String) (v : Json) : Object :=
  ⟨placeNew k v o.entries, sorted_placeNew o.sorted⟩

/-- The object of a list of members: of several with the same key the last one counts. -/
def ofMembers (ms : List (String × Json)) : Object :=
  ms.foldr (fun m o => o.insertNew m.1 m.2) ∅

/-- The object with a key set if there is a value for it. -/
def insertSome (o : Object) (k : String) (v : Option Json) : Object :=
  match v with
  | some v => o.insert k v
  | none => o

/-- The object of those of the given fields that have a value. -/
def ofFields (fields : List (String × Option Json)) : Object :=
  fields.foldl (fun o f => o.insertSome f.1 f.2) ∅

/-- The first object with all members of the second put into it. -/
def override (o p : Object) : Object :=
  p.entries.foldl (fun o m => o.insert m.1 m.2) o

/-- The object as a value. -/
def toJson (o : Object) : Json :=
  .object o.entries

/-! ## What the operations do to look-ups -/

theorem lookup_place (k k' : String) (v : Json) (l : List (String × Json)) :
    lookup k' (place k v l) = if k = k' then some v else lookup k' l := by
  induction l with
  | nil => simp [place, lookup]
  | cons e r ih =>
    obtain ⟨j, w⟩ := e
    unfold place
    split
    next hlt => simp [lookup]
    next hlt =>
      split
      next hgt =>
        have hne : j ≠ k := fun h => String.lt_irrefl k (h ▸ hgt)
        simp only [lookup, ih]
        by_cases hj : j = k'
        · subst hj; simp [Ne.symm hne]
        · simp [hj]
      next hgt =>
        have hjk : j = k := String.le_antisymm (String.not_lt.1 hlt) (String.not_lt.1 hgt)
        subst hjk
        by_cases hj : j = k' <;> simp [lookup, hj]

@[simp] theorem get?_empty (k : String) : (∅ : Object).get? k = none := rfl

theorem get?_insert (o : Object) (k k' : String) (v : Json) :
    (o.insert k v).get? k' = if k = k' then some v else o.get? k' :=
  lookup_place k k' v o.entries

@[simp] theorem get?_insert_self (o : Object) (k : String) (v : Json) :
    (o.insert k v).get? k = some v := by
  simp [get?_insert]

theorem lookup_eq_none_of_lt {k : String} {l : List (String × Json)}
    (h : ∀ m ∈ l, k < m.1) : lookup k l = none := by
  induction l with
  | nil => rfl
  | cons e r ih =>
    have hne : e.1 ≠ k := fun he => String.lt_irrefl k (he ▸ h e (by simp))
    unfold lookup
    rw [if_neg hne]
    exact ih fun m hm => h m (by simp [hm])

theorem lookup_placeNew (k k' : String) (v : Json) {l : List (String × Json)}
    (hl : l.Pairwise fun a b => a.1 < b.1) :
    lookup k' (placeNew k v l) = (lookup k' l).or (if k = k' then some v else none) := by
  induction l with
  | nil => simp [placeNew, lookup]
  | cons e r ih =>
    obtain ⟨j, w⟩ := e
    have hr := List.pairwise_cons.1 hl
    unfold placeNew
    split
    next hlt =>
      by_cases hk : k = k'
      · subst hk
        have : lookup k ((j, w) :: r) = none := lookup_eq_none_of_lt fun m hm => by
          rcases List.mem_cons.1 hm with rfl | hm
          · exact hlt
          · exact String.lt_trans hlt (hr.1 m hm)
        rw [this, lookup]
        simp
      · rw [lookup, if_neg hk]
        simp [hk]
    next hlt =>
      split
      next hgt =>
        by_cases hj : j = k'
        · simp [lookup, hj]
        · simp [lookup, hj, ih hr.2]
      next hgt =>
        have hjk : j = k := String.le_antisymm (String.not_lt.1 hlt) (String.not_lt.1 hgt)
        subst hjk
        by_cases hj : j = k' <;> simp [lookup, hj]

theorem get?_insertNew (o : Object) (k k' : String) (v : Json) :
    (o.insertNew k v).get? k' = (o.get? k').or (if k = k' then some v else none) :=
  lookup_placeNew k k' v o.sorted

theorem get?_insertSome (o : Object) (k k' : String) (v : Option Json) :
    (o.insertSome k v).get? k' = if k = k' then v.or (o.get? k') else o.get? k' := by
  cases v <;> simp [insertSome, get?_insert]

theorem lookup_filter_ne (k k' : String) (l : List (String × Json)) :
    lookup k' (l.filter fun m => m.1 ≠ k) = if k = k' then none else lookup k' l := by
  induction l with
  | nil => simp [lookup]
  | cons e r ih =>
    obtain ⟨j, w⟩ := e
    by_cases hj : j = k
    · subst hj
      simp only [ne_eq, not_true_eq_false, decide_false, Bool.false_eq_true, not_false_eq_true,
        List.filter_cons_of_neg] at ih ⊢
      rw [ih]
      by_cases h : j = k' <;> simp [lookup, h]
    · rw [List.filter_cons_of_pos (by simpa using hj)]
      simp only [lookup, ih]
      by_cases h : j = k'
      · subst h; simp [Ne.symm hj]
      · simp [h]

theorem get?_erase (o : Object) (k k' : String) :
    (o.erase k).get? k' = if k = k' then none else o.get? k' :=
  lookup_filter_ne k k' o.entries

theorem lookup_eq_some_iff {k : String} {v : Json} {l : List (String × Json)}
    (h : l.Pairwise fun a b => a.1 < b.1) : lookup k l = some v ↔ (k, v) ∈ l := by
  induction l with
  | nil => simp [lookup]
  | cons e r ih =>
    obtain ⟨j, w⟩ := e
    rw [List.pairwise_cons] at h
    unfold lookup
    split
    next hj =>
      subst hj
      constructor
      · rintro ⟨⟩; simp
      · intro hm
        rcases List.mem_cons.1 hm with hm | hm
        · simp at hm; simp [hm]
        · exact absurd (h.1 _ hm) (String.lt_irrefl _)
    next hj =>
      rw [ih h.2]
      simp [Ne.symm hj]

theorem get?_eq_some_iff {o : Object} {k : String} {v : Json} :
    o.get? k = some v ↔ (k, v) ∈ o.entries :=
  lookup_eq_some_iff o.sorted

theorem keys_sorted (o : Object) : o.keys.Pairwise (· < ·) :=
  List.pairwise_map.2 o.sorted

/-- A member of a list ordered by its keys is smaller than all that follow; so two ordered lists
with the same look-ups are the same. -/
theorem entries_ext {l m : List (String × Json)} (hl : l.Pairwise fun a b => a.1 < b.1)
    (hm : m.Pairwise fun a b => a.1 < b.1) (h : ∀ k, lookup k l = lookup k m) : l = m := by
  induction l generalizing m with
  | nil =>
    cases m with
    | nil => rfl
    | cons e r => have := h e.1; simp [lookup] at this
  | cons e r ih =>
    cases m with
    | nil => have := h e.1; simp [lookup] at this
    | cons f s =>
      have hl' := List.pairwise_cons.1 hl
      have hm' := List.pairwise_cons.1 hm
      have he : e ∈ f :: s := (lookup_eq_some_iff hm).1
        ((h e.1).symm.trans ((lookup_eq_some_iff hl).2 (by simp)))
      have hf : f ∈ e :: r := (lookup_eq_some_iff hl).1
        ((h f.1).trans ((lookup_eq_some_iff hm).2 (by simp)))
      have hef : e = f := by
        rcases List.mem_cons.1 he with he | he
        · exact he
        · rcases List.mem_cons.1 hf with hf | hf
          · exact hf.symm
          · exact absurd (String.lt_trans (hm'.1 _ he) (hl'.1 _ hf)) (String.lt_irrefl _)
      subst hef
      congr 1
      refine ih hl'.2 hm'.2 fun k => ?_
      by_cases hk : e.1 = k
      · have none_of {t : List (String × Json)} (ht : ∀ a ∈ t, e.1 < a.1)
            (hs : t.Pairwise fun a b => a.1 < b.1) : lookup k t = none := by
          cases hc : lookup k t with
          | none => rfl
          | some v =>
            have := ht _ ((lookup_eq_some_iff hs).1 hc)
            rw [hk] at this
            exact absurd this (String.lt_irrefl _)
        rw [none_of hl'.1 hl'.2, none_of hm'.1 hm'.2]
      · have := h k
        simpa [lookup, hk] using this

/-- Objects with the same look-ups are equal. -/
theorem ext_get? {o p : Object} (h : ∀ k, o.get? k = p.get? k) : o = p :=
  entries_injective (entries_ext o.sorted p.sorted h)

theorem lookup_concat (k : String) (m : String × Json) (l : List (String × Json)) :
    lookup k (l ++ [m]) = (lookup k l).or (if m.1 = k then some m.2 else none) := by
  induction l with
  | nil => simp [lookup]
  | cons e r ih => by_cases h : e.1 = k <;> simp [lookup, h, ih]

theorem get?_foldl_insert (ms : List (String × Json)) (o : Object) (k : String) :
    (ms.foldl (fun o m => o.insert m.1 m.2) o).get? k =
      (lookup k ms.reverse).or (o.get? k) := by
  induction ms generalizing o with
  | nil => simp [lookup]
  | cons m r ih =>
    rw [List.foldl_cons, ih, get?_insert, List.reverse_cons, lookup_concat]
    cases lookup k r.reverse <;> by_cases h : m.1 = k <;> simp [h]

theorem lookup_reverse_of_sorted {k : String} {l : List (String × Json)}
    (h : l.Pairwise fun a b => a.1 < b.1) : lookup k l.reverse = lookup k l := by
  have nodup : (l.map (·.1)).Nodup :=
    (List.pairwise_map.2 h).imp fun hlt => fun heq => String.lt_irrefl _ (heq ▸ hlt)
  have mem_iff {m : List (String × Json)} (hm : (m.map (·.1)).Nodup) (v : Json) :
      lookup k m = some v ↔ (k, v) ∈ m := by
    induction m with
    | nil => simp [lookup]
    | cons e r ih =>
      obtain ⟨j, w⟩ := e
      rw [List.map_cons, List.nodup_cons] at hm
      by_cases hj : j = k
      · subst hj
        have : ∀ u, (j, u) ∉ r := fun u hu => hm.1 (List.mem_map.2 ⟨_, hu, rfl⟩)
        simp [lookup, this, eq_comm]
      · simp [lookup, hj, ih hm.2, Ne.symm hj]
  have hrev : (l.reverse.map (·.1)).Nodup := by
    rw [List.map_reverse]; exact List.pairwise_reverse.2 (nodup.imp Ne.symm)
  cases hc : lookup k l with
  | none =>
    cases hd : lookup k l.reverse with
    | none => rfl
    | some v =>
      rw [mem_iff hrev, List.mem_reverse, ← mem_iff nodup, hc] at hd
      cases hd
  | some v => rwa [mem_iff hrev, List.mem_reverse, ← mem_iff nodup]

/-- The members of the second object win. -/
theorem get?_override (o p : Object) (k : String) :
    (o.override p).get? k = (p.get? k).or (o.get? k) := by
  rw [override, get?_foldl_insert, lookup_reverse_of_sorted p.sorted]
  rfl

/-- The last member with a key decides its value. -/
theorem get?_ofMembers (ms : List (String × Json)) (k : String) :
    (ofMembers ms).get? k = lookup k ms.reverse := by
  unfold ofMembers
  induction ms with
  | nil => rfl
  | cons m r ih => rw [List.foldr_cons, get?_insertNew, ih, List.reverse_cons, lookup_concat]

/-- The object of the members of an object is that object. -/
@[simp] theorem ofMembers_entries (o : Object) : ofMembers o.entries = o :=
  ext_get? fun k => by rw [get?_ofMembers, lookup_reverse_of_sorted o.sorted]; rfl

end Object

end GeneralApplications.Json

import GeneralApplications.Proofs.Json.Decoding

/-!
# Parts of a text and of a value

Where in a text the field of a record stands: under one of its names in an object, at its position
in a list (`Document.field?`). A record that was decoded from a text has read its fields there, and
a free object that was read is the value of its part of the text (`toJson_of_readObject`).

In a value, a field stands in the corresponding place (`Json.field?`), and an alternative is given
by its name there (`Json.label?`).
-/

namespace GeneralApplications.Json

variable {α σ : Type}

/-! ## Fields of a record -/

/-- The part of a record for one of its fields: the first member with one of the names, or the item
at the position. -/
def Document.field? (names : List String) (position : Nat) : Document → Option Document
  | .object members _ =>
    (members.find? fun m =>
      match m.1 with
      | .ok key => names.contains key
      | .error _ => false).map (·.2)
  | .array items _ => items[position]?
  | _ => none

/-- The members that a reader comes to are all of them, if nothing stops it. -/
theorem Document.memberSequence_unbroken {broken : Option Fault}
    {members : List (Except ParseError String × Document)}
    (h : (memberSequence broken members).broken = none) :
    broken = none ∧
      members = (memberSequence broken members).parts.map fun m => (.ok m.1, m.2) := by
  induction members with
  | nil =>
    have hbroken : broken = none := by simpa [memberSequence] using h
    exact ⟨hbroken, rfl⟩
  | cons m members ih =>
    obtain ⟨key, t⟩ := m
    cases key with
    | error e => cases h
    | ok key =>
      obtain ⟨hbroken, hmembers⟩ := ih h
      exact ⟨hbroken, congrArg _ hmembers⟩

theorem unbroken_eq_ok_iff {broken : Option ParseError} {u : Unit} :
    unbroken broken = .ok u ↔ broken = none := by
  cases broken <;> simp [unbroken]

/-- A closed record that was decoded from a text has found its fields in their parts of it. -/
theorem Codec.exists_findings_of_decode {name : String} {l : Layout Document σ σ} {t : Document}
    {s : σ} (h : (Codec.record name l).decode t = .ok s) :
    ∃ fs, l.read fs = .ok s ∧ ∀ p found, fs.find p = .ok found →
      found.map (·.2) =
        t.field? (p.name :: p.aliases) (l.places.findIdx (·.name = p.name)) := by
  obtain ⟨node, hnode, h⟩ := bind_eq_ok_iff.1 h
  cases t with
  | object members broken =>
    obtain rfl := Except.ok.inj hnode
    obtain ⟨_, _, h⟩ := bind_eq_ok_iff.1 h
    obtain ⟨_, hunbroken, hread⟩ := bind_eq_ok_iff.1 h
    obtain ⟨-, hmembers⟩ := Document.memberSequence_unbroken (unbroken_eq_ok_iff.1 hunbroken)
    refine ⟨_, hread, fun p found hfound => ?_⟩
    obtain rfl := Except.ok.inj hfound
    have hnames : (fun m : String × Document => decide (p.name = m.1) || p.aliases.contains m.1) =
        fun m => (p.name :: p.aliases).contains m.1 := by
      funext m
      simp [eq_comm]
    generalize (Document.memberSequence broken members).parts = parts at hmembers
    subst hmembers
    rw [Document.field?, List.find?_map, Option.map_map, Option.map_map, hnames]
    rfl
  | array items broken =>
    obtain rfl := Except.ok.inj hnode
    obtain ⟨s', hread, h⟩ := bind_eq_ok_iff.1 h
    obtain ⟨_, _, h⟩ := bind_eq_ok_iff.1 h
    obtain rfl : s' = s := Except.ok.inj h
    refine ⟨_, hread, fun p found hfound => ?_⟩
    simp only [Findings.ofItems] at hfound
    rw [Document.field?]
    cases hitem : items[l.places.findIdx (·.name = p.name)]? with
    | some t =>
      rw [hitem] at hfound
      obtain rfl := Except.ok.inj hfound
      rfl
    | none =>
      rw [hitem] at hfound
      obtain ⟨_, _, hfound⟩ := bind_eq_ok_iff.1 hfound
      obtain rfl := Except.ok.inj hfound
      rfl
  | null => cases hnode; cases h
  | bool b => cases hnode; cases h
  | number n => cases hnode; cases h
  | string s => cases hnode; cases h
  | refused e inner => cases hnode
  | missing f => cases hnode

/-- What a text is read as was read from its one value. -/
theorem read_of_readText {read : Document → Except Rejection α} {s : String} {a : α}
    (h : readText read s = .ok a) : read (Document.read s).1 = .ok a := by
  have hread : readText read s = (do
      let a ← read (Document.read s).1
      if (Document.read s).2 then return a
      else .error (.here (.malformed .trailingCharacters))) := rfl
  rw [hread] at h
  obtain ⟨a', ha, h⟩ := bind_eq_ok_iff.1 h
  split at h
  next => rwa [Except.ok.inj h] at ha
  next => cases h

section
variable {τ : Type} {name : String} {get : σ → α} {c : Codec τ α} {fs : Findings τ} {a : α}

/-- What is read of a field that must be there was decoded from what was found. -/
theorem Layout.find_of_read_required (h : (required name get c).read fs = .ok a) :
    ∃ found, fs.find (place name [] c.decode) = .ok (some found) ∧ c.decode found.2 = .ok a := by
  obtain ⟨found, hfound, h⟩ := bind_eq_ok_iff.1 h
  cases found with
  | none => cases h
  | some found => exact ⟨found, hfound, within_eq_ok_iff.1 h⟩

/-- So it is with a field that may be missing, or else it is the default. -/
theorem Layout.find_of_read_defaulted {aliases : List String} {default : α}
    (h : (defaulted name aliases default get c).read fs = .ok a) :
    (fs.find (place name aliases c.decode) = .ok none ∧ a = default) ∨
    ∃ found, fs.find (place name aliases c.decode) = .ok (some found) ∧
      c.decode found.2 = .ok a := by
  obtain ⟨found, hfound, h⟩ := bind_eq_ok_iff.1 h
  cases found with
  | none => exact .inl ⟨hfound, (Except.ok.inj h).symm⟩
  | some found => exact .inr ⟨found, hfound, within_eq_ok_iff.1 h⟩

/-- An optional field is missing, or else it was decoded from what was found. -/
theorem Layout.find_of_read_optional [Readable τ] {get : σ → Option α} {a : Option α}
    (h : (optional name get c).read fs = .ok a) :
    (fs.find (place name [] (readOption c.decode)) = .ok none ∧ a = none) ∨
    ∃ found, fs.find (place name [] (readOption c.decode)) = .ok (some found) ∧
      readOption c.decode found.2 = .ok a := by
  obtain ⟨found, hfound, h⟩ := bind_eq_ok_iff.1 h
  cases found with
  | none => exact .inl ⟨hfound, (Except.ok.inj h).symm⟩
  | some found => exact .inr ⟨found, hfound, within_eq_ok_iff.1 h⟩

end

/-! ## Free objects -/

theorem membersToJson_of_readMembers {members : List (String × Document)}
    {ms : List (String × Json)} (h : readMembers members = .ok ms) :
    Document.membersToJson (members.map fun m => (.ok m.1, m.2)) = .ok ms := by
  induction members generalizing ms with
  | nil =>
    obtain rfl : [] = ms := Except.ok.inj h
    rfl
  | cons m members ih =>
    obtain ⟨j, hj, h⟩ := bind_eq_ok_iff.1 h
    obtain ⟨ms', hms, h⟩ := bind_eq_ok_iff.1 h
    obtain rfl : (m.1, j) :: ms' = ms := Except.ok.inj h
    have hvalue : m.2.toJson = .ok j := mapError_eq_ok_iff.1 (within_eq_ok_iff.1 hj)
    simp [Document.membersToJson, hvalue, ih hms, bind, Except.bind, pure, Except.pure]

/-- A free object that was read from a text is the value of the text. -/
theorem toJson_of_readObject {t : Document} {o : Object} (h : readObject t = .ok o) :
    t.toJson = .ok o.toJson := by
  obtain ⟨node, hnode, h⟩ := bind_eq_ok_iff.1 h
  cases t with
  | object members broken =>
    obtain rfl := Except.ok.inj hnode
    obtain ⟨ms, hms, h⟩ := bind_eq_ok_iff.1 h
    obtain ⟨_, hunbroken, h⟩ := bind_eq_ok_iff.1 h
    obtain rfl : Object.ofMembers ms = o := Except.ok.inj h
    obtain ⟨rfl, hmembers⟩ := Document.memberSequence_unbroken (unbroken_eq_ok_iff.1 hunbroken)
    rw [hmembers]
    simp [Document.toJson, membersToJson_of_readMembers hms, bind, Except.bind, pure, Except.pure]
  | array items broken => cases hnode; cases h
  | null => cases hnode; cases h
  | bool b => cases hnode; cases h
  | number n => cases hnode; cases h
  | string s => cases hnode; cases h
  | refused e inner => cases hnode
  | missing f => cases hnode

/-! ## Fields in a value -/

/-- The part of a record for one of its fields: the member with its name, or the item at its
position. -/
def field? (name : String) (position : Nat) : Json → Option Json
  | .object members => Object.lookup name members
  | .array items => items[position]?
  | _ => none

/-- What is found at a place without aliases, whatever is checked there. -/
def Findings.Finds (fs : Findings Json) (name : String) (part : Option Json) : Prop :=
  ∀ check found, fs.find ⟨name, [], check⟩ = .ok found → part = found.map (·.2)

theorem Findings.finds_ofMembers (members : List (String × Json)) (name : String) :
    (Findings.ofMembers members).Finds name (Object.lookup name members) := by
  intro check found hfound
  obtain rfl := Except.ok.inj ((RecordField.find_place check).symm.trans hfound)
  cases Object.lookup name members <;> rfl

theorem Findings.finds_ofItems (record : String) (places : List (Place Json)) (items : List Json)
    (name : String) : (Findings.ofItems record places ⟨items, none⟩).Finds name
      items[places.findIdx (·.name = name)]? := by
  intro check found hfound
  simp only [Findings.ofItems] at hfound
  cases hitem : items[places.findIdx (·.name = name)]? with
  | some t =>
    rw [hitem] at hfound
    rw [← Except.ok.inj hfound]
    rfl
  | none =>
    rw [hitem] at hfound
    rw [← Except.ok.inj hfound]
    rfl

/-- A closed record that was decoded has read its fields from their parts of the value. -/
theorem Codec.IsRecord.exists_findings {c : Codec Json σ} {fields : List (RecordField σ)}
    (hc : c.IsRecord fields) {j : Json} {s : σ} (h : c.decode j = .ok s) :
    ∃ fs, (∀ f ∈ fields, f.Reads fs s) ∧
      ∀ name, fs.Finds name (j.field? name (fields.findIdx (·.name = name))) := by
  obtain ⟨record, l, rfl, hl, -⟩ := hc
  rcases Codec.decode_record h with ⟨members, rfl, -, hread⟩ | ⟨items, rfl, hread⟩
  · exact ⟨_, (hl.read _ _).1 hread, Findings.finds_ofMembers members⟩
  · refine ⟨_, (hl.read _ _).1 hread, fun name => ?_⟩
    have hposition : l.places.findIdx (·.name = name) = fields.findIdx (·.name = name) := by
      rw [hl.places, List.findIdx_map]
      rfl
    rw [← hposition]
    exact Findings.finds_ofItems record l.places items name

/-- A field that must be there was decoded from what is found for it. -/
theorem Layout.part_of_read_required {name : String} {get : σ → α} {c : Codec Json α}
    {fs : Findings Json} {part : Option Json} {a : α} (hpart : fs.Finds name part)
    (h : (required name get c).read fs = .ok a) : ∃ t, part = some t ∧ c.decode t = .ok a := by
  obtain ⟨found, hfound, hread⟩ := find_of_read_required h
  exact ⟨found.2, hpart _ _ hfound, hread⟩

/-- So was an optional field, if something is found. -/
theorem Layout.part_of_read_optional {name : String} {get : σ → Option α} {c : Codec Json α}
    {fs : Findings Json} {part : Option Json} {a : Option α} (hpart : fs.Finds name part)
    (h : (optional name get c).read fs = .ok a) :
    (part = none ∧ a = none) ∨ ∃ t, part = some t ∧ readOption c.decode t = .ok a := by
  rcases find_of_read_optional h with ⟨hfound, ha⟩ | ⟨found, hfound, hread⟩
  · exact .inl ⟨hpart _ _ hfound, ha⟩
  · exact .inr ⟨found.2, hpart _ _ hfound, hread⟩

/-- The name by which an alternative is given: as a text, or as the only key of an object, with
`null`. -/
def label? : Json → Option String
  | .string name => some name
  | .object [(name, .null)] => some name
  | _ => none

/-- An alternative was given by its name. -/
theorem label?_of_decode_named {all : List α} {name : α → String} {t : Json} {a : α}
    (h : (Codec.named all name : Codec Json α).decode t = .ok a) : t.label? = some (name a) := by
  have hname : ∀ n, variant (all.map fun b => (name b, b)) n = .ok a → n = name a := by
    intro n hn
    obtain ⟨v, hfind, rfl⟩ := variant_eq_ok_iff.1 hn
    obtain ⟨b, -, rfl⟩ := List.mem_map.1 (List.mem_of_find?_eq_some hfind)
    have hb : name b = n := by simpa using List.find?_some hfind
    exact hb.symm
  cases t with
  | string n => exact congrArg some (hname n h)
  | object members =>
    have hmembers : variantOfValue (all.map fun b => (name b, b)) members = .ok a := h
    unfold variantOfValue at hmembers
    split at hmembers
    next n v =>
      obtain ⟨b, hb, hmembers⟩ := bind_eq_ok_iff.1 hmembers
      obtain ⟨_, hunit, hmembers⟩ := bind_eq_ok_iff.1 hmembers
      obtain rfl : b = a := Except.ok.inj hmembers
      cases v with
      | null => exact congrArg some (hname n hb)
      | _ => cases hunit
    next => cases hmembers
  | null => cases h
  | bool b => cases h
  | number n => cases h
  | array items => cases h

section
variable {c : Codec Json σ} {fields : List (RecordField σ)} (hc : c.IsRecord fields) {j : Json}
  {s : σ} {name : String}
include hc

/-- A field that must be there was decoded from its part of the value. -/
theorem Codec.IsRecord.part_of_required {get : σ → α} {d : Codec Json α}
    (hf : RecordField.required name get d ∈ fields) (h : c.decode j = .ok s) :
    ∃ t, j.field? name (fields.findIdx (·.name = name)) = some t ∧ d.decode t = .ok (get s) := by
  obtain ⟨fs, hreads, hfinds⟩ := hc.exists_findings h
  exact Layout.part_of_read_required (hfinds name) (hreads _ hf)

/-- So was a field that may be missing. -/
theorem Codec.IsRecord.part_of_optional {get : σ → Option α} {d : Codec Json α}
    (hf : RecordField.optional name get d ∈ fields) (h : c.decode j = .ok s) :
    (j.field? name (fields.findIdx (·.name = name)) = none ∧ get s = none) ∨
      ∃ t, j.field? name (fields.findIdx (·.name = name)) = some t ∧
        readOption d.decode t = .ok (get s) := by
  obtain ⟨fs, hreads, hfinds⟩ := hc.exists_findings h
  exact Layout.part_of_read_optional (hfinds name) (hreads _ hf)

/-- An alternative was given by its name in the part of its field. -/
theorem Codec.IsRecord.label?_of_required {get : σ → α} {all : List α} {label : α → String}
    (hf : RecordField.required name get (.named all label) ∈ fields) (h : c.decode j = .ok s) :
    (j.field? name (fields.findIdx (·.name = name))).bind label? = some (label (get s)) := by
  obtain ⟨t, ht, hread⟩ := hc.part_of_required hf h
  rw [ht, Option.bind_some, label?_of_decode_named hread]

end

end GeneralApplications.Json

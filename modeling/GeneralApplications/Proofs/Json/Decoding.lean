import GeneralApplications.Proofs.Json.Fields

/-!
# What decoding gives

Whether a record is decoded from a value or from a text, it is read with its layout, what its fields
hold was decoded itself, and no further member has the name of a field.
-/

namespace GeneralApplications.Json

variable {τ : Type} [Readable τ] {α σ : Type}

/-! ## Records -/

/-- A closed record is read with its layout. -/
theorem Codec.exists_read_of_decode {name : String} {l : Layout τ σ σ} {t : τ} {s : σ}
    (h : (Codec.record name l).decode t = .ok s) : ∃ fs, l.read fs = .ok s := by
  obtain ⟨node, _, h⟩ := bind_eq_ok_iff.1 h
  cases node with
  | object members =>
    obtain ⟨_, _, h⟩ := bind_eq_ok_iff.1 h
    obtain ⟨_, _, h⟩ := bind_eq_ok_iff.1 h
    exact ⟨_, h⟩
  | array items =>
    obtain ⟨s', hread, h⟩ := bind_eq_ok_iff.1 h
    obtain ⟨_, _, h⟩ := bind_eq_ok_iff.1 h
    obtain rfl : s' = s := Except.ok.inj h
    exact ⟨_, hread⟩
  | null => cases h
  | bool b => cases h
  | number n => cases h
  | string s => cases h

/-- An open record is read with its layout, and with members none of which has the name of one of
its places. -/
theorem Codec.exists_build_of_decode {name : String} {l : Layout τ σ (Object → σ)}
    {rest : σ → Object} {t : τ} {s : σ} (h : (Codec.openRecord name l rest).decode t = .ok s) :
    ∃ fs build o, l.read fs = .ok build ∧ s = build o ∧
      ∀ k ∈ l.places.map (·.name), o.get? k = none := by
  obtain ⟨node, _, h⟩ := bind_eq_ok_iff.1 h
  cases node with
  | object members =>
    obtain ⟨build, hbuild, h⟩ := bind_eq_ok_iff.1 h
    obtain ⟨unknown, hunknown, h⟩ := bind_eq_ok_iff.1 h
    obtain ⟨_, _, hbuild⟩ := bind_eq_ok_iff.1 hbuild
    obtain ⟨_, _, hbuild⟩ := bind_eq_ok_iff.1 hbuild
    refine ⟨_, build, Object.ofMembers unknown, hbuild, (Except.ok.inj h).symm, fun k hk => ?_⟩
    obtain ⟨p, hp, rfl⟩ := List.mem_map.1 hk
    rw [Object.get?_ofMembers, Object.lookup_eq_none_iff]
    intro m hm he
    have hkey : m.1 ∈ (unknownMembers l.places members.parts).map (·.1) := by
      rw [← keys_of_readMembers hunknown]
      exact List.mem_map_of_mem (List.mem_reverse.1 hm)
    obtain ⟨u, hu, hum⟩ := List.mem_map.1 hkey
    have hplace : placeOf? l.places p.name = none := by
      rw [← he, ← hum]
      simpa using (List.mem_filter.1 hu).2
    simpa using List.find?_eq_none.1 hplace p hp
  | array items => cases h
  | null => cases h
  | bool b => cases h
  | number n => cases h
  | string s => cases h

/-! ## Fields -/

/-- The items of a collection were read from something. -/
theorem Layout.exists_of_read_collection {name : String} {get : σ → List α} {c : Codec τ α}
    {fs : Findings τ} {as : List α} (h : (collection name get c).read fs = .ok as) :
    ∀ a ∈ as, ∃ t, c.decode t = .ok a := by
  obtain ⟨found, _, h⟩ := bind_eq_ok_iff.1 h
  cases found with
  | none =>
    obtain rfl : [] = as := Except.ok.inj h
    simp
  | some found =>
    obtain ⟨o, ho, rfl⟩ := map_eq_ok_iff.1 (within_eq_ok_iff.1 h)
    cases o with
    | none => simp
    | some as =>
      obtain ⟨t, ht⟩ := exists_of_readOption ho
      exact exists_of_readList ht

omit [Readable τ] in
/-- So was a field that must be there. -/
theorem Layout.exists_of_read_required {name : String} {get : σ → α} {c : Codec τ α}
    {fs : Findings τ} {a : α} (h : (required name get c).read fs = .ok a) :
    ∃ t, c.decode t = .ok a := by
  obtain ⟨found, _, h⟩ := bind_eq_ok_iff.1 h
  cases found with
  | none => cases h
  | some found => exact ⟨found.2, within_eq_ok_iff.1 h⟩

end GeneralApplications.Json

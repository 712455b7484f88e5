import GeneralApplications.Json.Reading
import Mathlib.Data.List.Forall2

/-!
# Readers that succeed

When a reader of values succeeds and with what result: alternatives, options, lists and free
objects. Of what a reader of any source gives, every part was read from something.
-/

namespace GeneralApplications.Json

variable {α β : Type}

theorem bind_eq_ok_iff {ε : Type} {x : Except ε α} {f : α → Except ε β} {b : β} :
    (x >>= f) = .ok b ↔ ∃ a, x = .ok a ∧ f a = .ok b := by
  cases x <;> simp [bind, Except.bind]

theorem map_eq_ok_iff {ε : Type} {x : Except ε α} {f : α → β} {b : β} :
    f <$> x = .ok b ↔ ∃ a, x = .ok a ∧ f a = b := by
  cases x <;> simp [Functor.map, Except.map]

theorem mapError_eq_ok_iff {ε ε' : Type} {x : Except ε α} {f : ε → ε'} {a : α} :
    x.mapError f = .ok a ↔ x = .ok a := by
  cases x with
  | error e => exact iff_of_false nofun nofun
  | ok b =>
    show (.ok b : Except ε' α) = .ok a ↔ (.ok b : Except ε α) = .ok a
    simp

theorem variant_eq_ok_iff {vs : List (String × α)} {name : String} {a : α} :
    variant vs name = .ok a ↔ ∃ v, vs.find? (·.1 = name) = some v ∧ v.2 = a := by
  unfold variant
  cases vs.find? (·.1 = name) <;> simp

/-- A value that is there and not `null` is read as the option's value. -/
theorem readOption_json {read : Json → Except Rejection α} {j : Json} (hj : j ≠ .null) :
    readOption read j = some <$> read j := by
  cases j <;> first | rfl | exact absurd rfl hj

theorem readItems_eq_ok {read : Json → Except Rejection α} {i : Nat} {items : List Json}
    {as : List α} :
    readItems read i items = .ok as ↔ List.Forall₂ (fun j a => read j = .ok a) items as := by
  induction items generalizing i as with
  | nil =>
    constructor
    · rintro ⟨⟩
      exact .nil
    · rintro ⟨⟩
      rfl
  | cons j r ih =>
    simp only [readItems, bind_eq_ok_iff, within_eq_ok_iff, ih, List.forall₂_cons_left_iff]
    constructor
    · rintro ⟨a, ha, as', has, h⟩
      exact ⟨a, as', ha, has, (Except.ok.inj h).symm⟩
    · rintro ⟨a, as', ha, has, rfl⟩
      exact ⟨a, ha, as', has, rfl⟩

/-- A list is read from an array, item by item. -/
theorem readList_eq_ok {read : Json → Except Rejection α} {j : Json} {as : List α} :
    readList read j = .ok as ↔
      ∃ items, j = .array items ∧ List.Forall₂ (fun j a => read j = .ok a) items as := by
  constructor
  · intro h
    cases j with
    | array items =>
      obtain ⟨_, hnode, h⟩ := bind_eq_ok_iff.1 h
      cases hnode
      obtain ⟨as', hr, h⟩ := bind_eq_ok_iff.1 h
      cases h
      exact ⟨items, rfl, readItems_eq_ok.1 hr⟩
    | null => cases h
    | bool b => cases h
    | number n => cases h
    | string s => cases h
    | object members => cases h
  · rintro ⟨items, rfl, h⟩
    have hr : readItems read 0 items = .ok as := readItems_eq_ok.2 h
    simp [readList, Readable.node, hr, unbroken, bind, Except.bind, pure, Except.pure]

/-! ## Whatever the source -/

section
variable {τ : Type} [Readable τ]

omit [Readable τ] in
/-- Every item of a list that was read was read from something. -/
theorem exists_of_readItems {read : τ → Except Rejection α} {i : Nat} {ts : List τ} {as : List α}
    (h : readItems read i ts = .ok as) : ∀ a ∈ as, ∃ t, read t = .ok a := by
  induction ts generalizing i as with
  | nil =>
    obtain rfl : [] = as := Except.ok.inj h
    simp
  | cons t ts ih =>
    obtain ⟨a, ha, h⟩ := bind_eq_ok_iff.1 h
    obtain ⟨as', has, h⟩ := bind_eq_ok_iff.1 h
    obtain rfl : a :: as' = as := Except.ok.inj h
    exact List.forall_mem_cons.2 ⟨⟨t, within_eq_ok_iff.1 ha⟩, ih has⟩

theorem exists_of_readList {read : τ → Except Rejection α} {t : τ} {as : List α}
    (h : readList read t = .ok as) : ∀ a ∈ as, ∃ t, read t = .ok a := by
  obtain ⟨node, _, h⟩ := bind_eq_ok_iff.1 h
  cases node with
  | array items =>
    obtain ⟨as', has, h⟩ := bind_eq_ok_iff.1 h
    obtain ⟨_, _, h⟩ := bind_eq_ok_iff.1 h
    obtain rfl : as' = as := Except.ok.inj h
    exact exists_of_readItems has
  | null => cases h
  | bool b => cases h
  | number n => cases h
  | string s => cases h
  | object members => cases h

theorem exists_of_readOption {read : τ → Except Rejection α} {t : τ} {a : α}
    (h : readOption read t = .ok (some a)) : ∃ t, read t = .ok a := by
  obtain ⟨node, _, h⟩ := bind_eq_ok_iff.1 h
  split at h
  next => cases h
  next =>
    obtain ⟨a', ha, hsome⟩ := map_eq_ok_iff.1 h
    exact ⟨t, by rw [ha, Option.some.inj hsome]⟩

/-- Free members keep their keys. -/
theorem keys_of_readMembers {members : List (String × τ)} {ms : List (String × Json)}
    (h : readMembers members = .ok ms) : ms.map (·.1) = members.map (·.1) := by
  induction members generalizing ms with
  | nil =>
    obtain rfl : [] = ms := Except.ok.inj h
    rfl
  | cons m members ih =>
    obtain ⟨j, _, h⟩ := bind_eq_ok_iff.1 h
    obtain ⟨ms', hms, h⟩ := bind_eq_ok_iff.1 h
    obtain rfl : (m.1, j) :: ms' = ms := Except.ok.inj h
    simp [ih hms]

end

/-! ## Free objects -/

theorem readMembers_json (members : List (String × Json)) :
    readMembers members = .ok members := by
  induction members with
  | nil => rfl
  | cons m r ih => simp [readMembers, ih, Readable.free, bind, Except.bind, pure, Except.pure]

end GeneralApplications.Json

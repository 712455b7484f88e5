import GeneralApplications.Json.Object
import GeneralApplications.Json.Reading

/-!
# Paths into values

A path of keys and positions leads from a value to one of its parts. Of several members with the
same key the last one counts, as for free objects.

`Holds` says that a path leads to a given scalar. For every kind of value one lemma tells what it
holds (`holds_object_iff`, `holds_array_iff`, …); `null` holds nothing.
-/

namespace GeneralApplications.Json

/-- The part of a value one step further in. -/
def child? : Step → Json → Option Json
  | .key k, .object members => (Object.ofMembers members).get? k
  | .index i, .array items => items[i]?
  | _, _ => none

/-- The part of a value at the end of a path. -/
def descend : List Step → Json → Option Json
  | [], j => some j
  | step :: path, j => (child? step j).bind (descend path)

/-- A text, a number or a truth value. -/
def isScalar : Json → Bool
  | .bool _ | .number _ | .string _ => true
  | .null | .array _ | .object _ => false

/-- The path leads from `j` to the scalar `v`. -/
def Holds (j : Json) (path : List Step) (v : Json) : Prop :=
  v.isScalar = true ∧ descend path j = some v

theorem holds_nil_iff {j v : Json} : j.Holds [] v ↔ j.isScalar = true ∧ v = j := by
  constructor
  · rintro ⟨hv, hd⟩
    obtain rfl : j = v := Option.some.inj hd
    exact ⟨hv, rfl⟩
  · rintro ⟨hj, rfl⟩
    exact ⟨hj, rfl⟩

theorem holds_cons_iff {j v : Json} {step : Step} {path : List Step} :
    j.Holds (step :: path) v ↔ ∃ t, child? step j = some t ∧ t.Holds path v := by
  simp only [Holds, descend, Option.bind_eq_some_iff]
  constructor
  · rintro ⟨hv, t, ht, hd⟩
    exact ⟨t, ht, hv, hd⟩
  · rintro ⟨t, ht, hv, hd⟩
    exact ⟨hv, t, ht, hd⟩

/-- A scalar holds itself and nothing further in. -/
theorem holds_iff_of_isScalar {j v : Json} {path : List Step} (hj : j.isScalar = true) :
    j.Holds path v ↔ path = [] ∧ v = j := by
  cases path with
  | nil => simp [holds_nil_iff, hj]
  | cons step path =>
    have : child? step j = none := by cases j <;> cases step <;> simp_all [isScalar, child?]
    simp [holds_cons_iff, this]

@[simp] theorem not_holds_null {v : Json} {path : List Step} : ¬ Json.null.Holds path v := by
  cases path with
  | nil => simp [holds_nil_iff, isScalar]
  | cons step path => cases step <;> simp [holds_cons_iff, child?]

theorem holds_object_iff {members : List (String × Json)} {v : Json} {path : List Step} :
    (Json.object members).Holds path v ↔
      ∃ k rest t, path = .key k :: rest ∧ (Object.ofMembers members).get? k = some t ∧
        t.Holds rest v := by
  cases path with
  | nil => simp [holds_nil_iff, isScalar]
  | cons step path => cases step <;> simp [holds_cons_iff, child?, and_assoc]

theorem holds_array_iff {items : List Json} {v : Json} {path : List Step} :
    (Json.array items).Holds path v ↔
      ∃ i rest t, path = .index i :: rest ∧ items[i]? = some t ∧ t.Holds rest v := by
  cases path with
  | nil => simp [holds_nil_iff, isScalar]
  | cons step path => cases step <;> simp [holds_cons_iff, child?, and_assoc]

theorem holds_toJson_iff {o : Object} {v : Json} {path : List Step} :
    o.toJson.Holds path v ↔
      ∃ k rest t, path = .key k :: rest ∧ o.get? k = some t ∧ t.Holds rest v := by
  rw [Object.toJson, holds_object_iff, Object.ofMembers_entries]

/-- What an object holds under a key is what the value of that key holds. -/
theorem holds_toJson_key_iff {o : Object} {k : String} {v : Json} {path : List Step} :
    o.toJson.Holds (.key k :: path) v ↔ ∃ t, o.get? k = some t ∧ t.Holds path v := by
  rw [holds_cons_iff, Object.toJson, child?, Object.ofMembers_entries]

end GeneralApplications.Json

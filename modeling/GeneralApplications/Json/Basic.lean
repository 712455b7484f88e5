import GeneralApplications.Number.Binary64

/-!
# JSON values

A value keeps the members of an object in the order in which they were given. `Json.Object` is the
canonical form of a free object, with strictly increasing keys; the order of members is otherwise
left to whoever reads the value.
-/

namespace GeneralApplications

/-- A number: an integer within 64 bits of either signedness, or a double. -/
inductive Json.Number where
  | int (n : Int)
  | double (x : Binary64)
  deriving DecidableEq, Repr, Inhabited

/-- A JSON value. -/
inductive Json where
  | null
  | bool (b : Bool)
  | number (n : Json.Number)
  | string (s : String)
  | array (items : List Json)
  | object (members : List (String × Json))
  deriving Repr, Inhabited

namespace Json

/-- A whole number. -/
def ofInt (n : Int) : Json :=
  .number (.int n)

/-- A list of texts. -/
def ofStrings (ss : List String) : Json :=
  .array (ss.map .string)

mutual

/-- Equality of values, decided along their structure. -/
def decEq : (a b : Json) → Decidable (a = b)
  | .null, .null => isTrue rfl
  | .bool x, .bool y => if h : x = y then isTrue (by rw [h]) else isFalse (by simpa using h)
  | .number x, .number y => if h : x = y then isTrue (by rw [h]) else isFalse (by simpa using h)
  | .string x, .string y => if h : x = y then isTrue (by rw [h]) else isFalse (by simpa using h)
  | .array x, .array y =>
    match decEqItems x y with
    | isTrue h => isTrue (by rw [h])
    | isFalse h => isFalse (by simpa using h)
  | .object x, .object y =>
    match decEqMembers x y with
    | isTrue h => isTrue (by rw [h])
    | isFalse h => isFalse (by simpa using h)
  | .null, .bool _ | .null, .number _ | .null, .string _ | .null, .array _ | .null, .object _
  | .bool _, .null | .bool _, .number _ | .bool _, .string _ | .bool _, .array _
  | .bool _, .object _ | .number _, .null | .number _, .bool _ | .number _, .string _
  | .number _, .array _ | .number _, .object _ | .string _, .null | .string _, .bool _
  | .string _, .number _ | .string _, .array _ | .string _, .object _ | .array _, .null
  | .array _, .bool _ | .array _, .number _ | .array _, .string _ | .array _, .object _
  | .object _, .null | .object _, .bool _ | .object _, .number _ | .object _, .string _
  | .object _, .array _ => isFalse (by simp)

/-- Equality of lists of values. -/
def decEqItems : (a b : List Json) → Decidable (a = b)
  | [], [] => isTrue rfl
  | [], _ :: _ => isFalse (by simp)
  | _ :: _, [] => isFalse (by simp)
  | x :: xs, y :: ys =>
    match decEq x y with
    | isFalse h => isFalse (by simp [h])
    | isTrue h =>
      match decEqItems xs ys with
      | isFalse h' => isFalse (by simp [h'])
      | isTrue h' => isTrue (by rw [h, h'])

/-- Equality of lists of members. -/
def decEqMembers : (a b : List (String × Json)) → Decidable (a = b)
  | [], [] => isTrue rfl
  | [], _ :: _ => isFalse (by simp)
  | _ :: _, [] => isFalse (by simp)
  | (j, x) :: xs, (k, y) :: ys =>
    if hk : j = k then
      match decEq x y with
      | isFalse h => isFalse (by simp [h])
      | isTrue h =>
        match decEqMembers xs ys with
        | isFalse h' => isFalse (by simp [h'])
        | isTrue h' => isTrue (by rw [hk, h, h'])
    else isFalse (by simp [hk])

end

instance : DecidableEq Json := decEq

/-- The value is `null`. -/
def isNull : Json → Bool
  | .null => true
  | _ => false

@[simp] theorem isNull_iff {j : Json} : j.isNull = true ↔ j = .null := by
  cases j <;> simp [isNull]

end Json

end GeneralApplications

import GeneralApplications.Json.Codec
import GeneralApplications.Text.Blank

/-!
# Case references

The number by which the case-data platform knows a case. It is written as digits, possibly in
groups with one hyphen or space between neighbours. Two written references mean the same case
exactly if their digits denote the same number.
-/

namespace GeneralApplications

open Text

/-- A case reference: a positive number below `2 ^ 63`. -/
structure CaseReference where
  number : Nat
  positive : 0 < number
  bounded : number < Nat.pow 2 63
  deriving DecidableEq

namespace CaseReference

instance : Repr CaseReference := ⟨fun r n => reprPrec r.number n⟩

/-- The reference with a given number, if it is in range. -/
def ofNat? (n : Nat) : Option CaseReference :=
  if h : 0 < n ∧ n < Nat.pow 2 63 then some ⟨n, h.1, h.2⟩ else none

/-- The written form, without groups. -/
def text (r : CaseReference) : String :=
  toString r.number

/-! ## Reading -/

/-- A character that stands between groups of digits. -/
def isSeparator (c : Char) : Bool :=
  c = '-' || c = ' '

/-- The groups between separators; there is always one, possibly empty. -/
def groups : List Char → List (List Char)
  | [] => [[]]
  | c :: r =>
    if isSeparator c then [] :: groups r
    else
      match groups r with
      | g :: gs => (c :: g) :: gs
      | [] => [[c]]

/-- A group of one digit or more. -/
def isGroup (g : List Char) : Bool :=
  !g.isEmpty && g.all Char.isDigit

/-- The reference that a text denotes: blanks around it do not count. -/
def ofChars? (cs : List Char) : Option CaseReference :=
  let gs := groups (trim cs)
  if gs.all isGroup then ofNat? (digitsValue gs.flatten) else none

/-- The reference that a text denotes. -/
def ofText? (s : String) : Option CaseReference :=
  ofChars? s.toList

/-- The wording for a text or number that is no reference. -/
def invalid (shown : String) : String :=
  "Invalid case reference: " ++ shown

/-! ## Wire form -/

/-- The reference given by a free value: a number or a text. -/
def ofJson (j : Json) : Except Json.Reason CaseReference :=
  match j with
  | .number (.int n) =>
    if n < Nat.pow 2 63 then
      match ofNat? n.toNat with
      | some r => .ok r
      | none => .error (.refused (invalid (toString n)))
    else .error (.unmatched "CaseIdRepr")
  | .string s =>
    match ofText? s with
    | some r => .ok r
    | none => .error (.refused (invalid s))
  | _ => .error (.unmatched "CaseIdRepr")

/-- References are read from numbers and texts and written as numbers. -/
def codec {τ : Type} [Json.Readable τ] : Json.Codec τ CaseReference where
  decode t := do
    let j ← Json.lift (Json.Readable.free t)
    (ofJson j).mapError .here
  encode r := .ofInt r.number

theorem ofNat?_eq_some_iff {n : Nat} {r : CaseReference} :
    ofNat? n = some r ↔ r.number = n := by
  unfold ofNat?
  constructor
  · intro h
    split at h
    · cases h; rfl
    · cases h
  · rintro rfl
    rw [dif_pos ⟨r.positive, r.bounded⟩]

end CaseReference

end GeneralApplications

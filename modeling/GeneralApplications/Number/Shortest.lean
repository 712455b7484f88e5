import GeneralApplications.Number.Binary64

/-!
# The shortest decimal of a double

The digits written for a double are the fewest that read back to it; among those of that length,
the nearest to its value, and of two equally near the even one. `shortest` finds them on the grids
of one, two, … seventeen digits: if a grid has a point that reads back, one of the two neighbours
of the value on that grid does.
-/

namespace GeneralApplications.Binary64

/-- A decimal number `digits · 10 ^ power`. -/
structure Decimal where
  digits : Nat
  power : Int
  deriving DecidableEq, Repr

/-- How many decimal digits a natural number has. -/
def digitCount (n : Nat) : Nat :=
  (Nat.toDigits 10 n).length

/-- The integer `t` with `10 ^ t ≤ num / den < 10 ^ (t + 1)`. -/
def decimalExponent (num den : Nat) : Int :=
  let t : Int := (digitCount num : Int) - (digitCount den : Int)
  let reached : Bool := match t with
    | .ofNat k => decide (den * Nat.pow 10 k ≤ num)
    | .negSucc k => decide (den ≤ num * Nat.pow 10 (k + 1))
  if reached then t else t - 1

/-- `num / den · 10 ^ -k` as a quotient of natural numbers. -/
def scaleTen (num den : Nat) (k : Int) : Nat × Nat :=
  match k with
  | .ofNat i => (num, den * Nat.pow 10 i)
  | .negSucc i => (num * Nat.pow 10 (i + 1), den)

/-- The decimal reads back to the double: it lies between the midpoints to the neighbouring
doubles, which count if the significand is even. All three numbers are scaled to quarters of the
last place. -/
def readsBack (x : Binary64) (d : Decimal) : Bool :=
  let q : Binary64 := ⟨false, 1, x.exponent⟩
  let unit := q.ratio
  let upper := 4 * x.significand + 2
  let lower :=
    if x.significand = Nat.pow 2 52 ∧ minExponent < x.exponent then 4 * x.significand - 1
    else 4 * x.significand - 2
  let value := scaleTen (4 * d.digits * unit.2) unit.1 (-d.power)
  let within (a b : Nat) : Bool := a < b || (a == b && x.significand % 2 == 0)
  within (lower * value.2) value.1 && within value.1 (upper * value.2)

/-- The neighbour of the value on a grid that reads back, if there is one: the nearer of the two,
the even one if they are equally near. -/
def onGrid (x : Binary64) (power : Int) : Option Nat :=
  let v := scaleTen x.ratio.1 x.ratio.2 power
  let below := v.1 / v.2
  let near := roundHalfEven v.1 v.2
  let far := if near = below then below + 1 else below
  if readsBack x ⟨near, power⟩ then some near
  else if readsBack x ⟨far, power⟩ then some far
  else none

/-- The first grid, from the coarsest, with a point that reads back. -/
def firstGrid (x : Binary64) (lead : Int) : List Nat → Decimal
  | [] => ⟨x.ratio.1, 0⟩
  | n :: rest =>
    let power := lead - n
    match onGrid x power with
    | some digits => ⟨digits, power⟩
    | none => firstGrid x lead rest

/-- The digits without trailing zeros; the power of ten takes them up. -/
def Decimal.strip : Nat → Decimal → Decimal
  | 0, d => d
  | n + 1, d => if d.digits % 10 = 0 ∧ d.digits ≠ 0 then strip n ⟨d.digits / 10, d.power + 1⟩ else d

/-- The shortest decimal that reads back to the magnitude of a double. -/
def shortest (x : Binary64) : Decimal :=
  if x.significand = 0 then ⟨0, 0⟩
  else (firstGrid x (decimalExponent x.ratio.1 x.ratio.2) (List.range 17)).strip 20

/-- Digits are written in place while the point stays within sixteen digits before or five zeros
after it, otherwise with an exponent that shows its sign; a whole number keeps one decimal place. -/
def text (x : Binary64) : String :=
  let d := x.shortest
  let ds := Nat.toDigits 10 d.digits
  let point : Int := ds.length + d.power
  let sign := if x.negative then "-" else ""
  if d.digits = 0 then sign ++ "0.0"
  else if 0 ≤ d.power ∧ point ≤ 16 then
    sign ++ String.ofList (ds ++ List.replicate d.power.toNat '0') ++ ".0"
  else if 0 < point ∧ point ≤ 16 then
    sign ++ String.ofList (ds.take point.toNat) ++ "." ++ String.ofList (ds.drop point.toNat)
  else if -5 < point ∧ point ≤ 0 then
    sign ++ "0." ++ String.ofList (List.replicate (-point).toNat '0' ++ ds)
  else
    let mantissa := match ds with
      | [c] => String.ofList [c]
      | c :: rest => String.ofList (c :: '.' :: rest)
      | [] => ""
    sign ++ mantissa ++ (if 0 < point then "e+" else "e") ++ toString (point - 1)

end GeneralApplications.Binary64

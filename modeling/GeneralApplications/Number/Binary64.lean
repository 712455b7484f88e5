/-!
# Double precision numbers in exact arithmetic

A finite double is a sign, a significand below `2 ^ 53` and a power of two. Rounding, products and
quotients are computed on natural numbers, so that a value and its text are the same in a proof as
in a run. `ofRatio` rounds a quotient of natural numbers to the nearest double and settles a tie in
favour of the even significand; everything else is defined through it.
-/

namespace GeneralApplications

/-- The finite double `± significand · 2 ^ exponent`. -/
structure Binary64 where
  negative : Bool
  significand : Nat
  exponent : Int
  deriving DecidableEq, Repr, Inhabited

namespace Binary64

/-- The least exponent of two that a double has. -/
def minExponent : Int := -1074

/-- The greatest exponent of two that a double has. -/
def maxExponent : Int := 971

/-- Zero with a sign. -/
def zero (negative : Bool) : Binary64 :=
  ⟨negative, 0, minExponent⟩

/-- The quotient rounded to the nearest natural number, a tie to the even one. -/
def roundHalfEven (num den : Nat) : Nat :=
  let q := num / den
  let r := num % den
  if 2 * r < den then q
  else if den < 2 * r then q + 1
  else q + q % 2

/-- `num / den · 2 ^ -e` as a quotient of natural numbers. -/
def scale (num den : Nat) (e : Int) : Nat × Nat :=
  match e with
  | .ofNat k => (num, den * Nat.pow 2 k)
  | .negSucc k => (num * Nat.pow 2 (k + 1), den)

/-- The exponent with which `num / den` has a significand of 53 bits, or the least exponent of a
double if that is greater. -/
def exponentOf (num den : Nat) : Int :=
  let guess : Int := (num.log2 : Int) - (den.log2 : Int) - 52
  let scaled := scale num den guess
  let e := if scaled.1 < Nat.pow 2 52 * scaled.2 then guess - 1 else guess
  max e minExponent

/-- The double nearest to `num / den`; `none` if that lies beyond the finite ones. -/
def ofRatio (negative : Bool) (num den : Nat) : Option Binary64 :=
  if num = 0 then some (zero negative)
  else
    let e := exponentOf num den
    let scaled := scale num den e
    let m := roundHalfEven scaled.1 scaled.2
    let r : Binary64 := if m = Nat.pow 2 53 then ⟨negative, Nat.pow 2 52, e + 1⟩ else ⟨negative, m, e⟩
    if r.significand = 0 then some (zero negative)
    else if maxExponent < r.exponent then none
    else some r

/-- The double nearest to a natural number. -/
def ofNat (n : Nat) : Option Binary64 :=
  ofRatio false n 1

/-- The magnitude as a quotient of natural numbers. -/
def ratio (x : Binary64) : Nat × Nat :=
  match x.exponent with
  | .ofNat k => (x.significand * Nat.pow 2 k, 1)
  | .negSucc k => (x.significand, Nat.pow 2 (k + 1))

/-- The rounded product. -/
def mul (x y : Binary64) : Option Binary64 :=
  ofRatio (x.negative != y.negative) (x.ratio.1 * y.ratio.1) (x.ratio.2 * y.ratio.2)

/-- The rounded quotient by a double other than zero. -/
def div (x y : Binary64) : Option Binary64 :=
  ofRatio (x.negative != y.negative) (x.ratio.1 * y.ratio.2) (x.ratio.2 * y.ratio.1)

/-- The double with the other sign. -/
def neg (x : Binary64) : Binary64 :=
  { x with negative := !x.negative }

end Binary64

end GeneralApplications

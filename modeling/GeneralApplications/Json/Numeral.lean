import GeneralApplications.Json.Basic
import GeneralApplications.Json.ParseError
import GeneralApplications.Text.Digits

/-!
# Numerals

The written form of a number and its value. Digits are taken into a significand of 64 bits as long
as it holds them; the number is then one double times or divided by one power of ten, rounded
twice. A whole number that the significand holds stays an integer, except negative zero and
negative numbers below `-2 ^ 63`.
-/

namespace GeneralApplications.Json

open Text

/-- The parts of a written number. -/
structure Numeral where
  negative : Bool
  whole : List Char
  fraction : Option (List Char)
  exponent : Option (Bool × List Char)
  deriving DecidableEq, Repr

namespace Numeral

/-! ## Reading -/

/-- What a reader reports when a digit must follow and does not. -/
def digitMissing : List Char → Fault
  | [] => ⟨.endInValue, .invalidNumber⟩
  | _ :: _ => .both .invalidNumber

/-- One digit or more. -/
def digits1 (cs : List Char) : Except Fault (List Char × List Char) :=
  match cs.takeWhile Char.isDigit with
  | [] => .error (digitMissing cs)
  | ds => .ok (ds, cs.dropWhile Char.isDigit)

/-- The part before the point: no leading zero unless it is the only digit. -/
def scanWhole (cs : List Char) : Except Fault (List Char × List Char) :=
  match cs with
  | '0' :: c :: r => if c.isDigit then .error (.both .invalidNumber) else .ok (['0'], c :: r)
  | '0' :: [] => .ok (['0'], [])
  | _ => digits1 cs

/-- The fraction, if there is one. -/
def scanFraction (cs : List Char) : Except Fault (Option (List Char) × List Char) :=
  match cs with
  | '.' :: r => do
    let (ds, r) ← digits1 r
    return (some ds, r)
  | _ => .ok (none, cs)

/-- The exponent, if there is one; the flag says that it is negative. -/
def scanExponent (cs : List Char) : Except Fault (Option (Bool × List Char) × List Char) :=
  match cs with
  | c :: r =>
    if c = 'e' ∨ c = 'E' then do
      let (negative, r) := match r with
        | '+' :: r => (false, r)
        | '-' :: r => (true, r)
        | r => (false, r)
      let (ds, r) ← digits1 r
      return (some (negative, ds), r)
    else .ok (none, cs)
  | [] => .ok (none, [])

/-- A number at the beginning of a text, and what follows it. -/
def scan (cs : List Char) : Except Fault (Numeral × List Char) := do
  let (negative, cs) := match cs with
    | '-' :: r => (true, r)
    | r => (false, r)
  let (whole, cs) ← scanWhole cs
  let (fraction, cs) ← scanFraction cs
  let (exponent, cs) ← scanExponent cs
  return (⟨negative, whole, fraction, exponent⟩, cs)

/-! ## Value -/

/-- Digits taken into a significand as long as it stays within 64 bits; the digits that no longer
fit are returned. -/
def absorb : Nat → List Char → Nat × List Char
  | n, [] => (n, [])
  | n, c :: r =>
    if 10 * n + digitValue c < Nat.pow 2 64 then absorb (10 * n + digitValue c) r else (n, c :: r)

/-- The greatest power of ten of which a double is scaled in one step. -/
def maxPower : Nat := 308

/-- A power of ten as a double. -/
def powerOfTen (n : Nat) : Binary64 :=
  (Binary64.ofNat (Nat.pow 10 n)).getD default

/-- A significand below `2 ^ 64` scaled by a power of ten; `none` if it grows beyond the finite
doubles. Below `10 ^ -616` even the second division by `10 ^ 308` leaves nothing. -/
def scaled (significand : Nat) (power : Int) : Option Binary64 :=
  match Binary64.ofNat significand with
  | none => none
  | some f =>
    match power with
    | .ofNat k =>
      if k ≤ maxPower then f.mul (powerOfTen k)
      else if f.significand = 0 then some f
      else none
    | .negSucc k =>
      if k + 1 ≤ maxPower then f.div (powerOfTen (k + 1))
      else if k + 1 ≤ 2 * maxPower then
        (f.div (powerOfTen maxPower)).bind fun g => g.div (powerOfTen (k + 1 - maxPower))
      else some (.zero false)

/-- A magnitude with a sign. -/
def signed (negative : Bool) (x : Binary64) : Binary64 :=
  if negative then x.neg else x

/-- A whole number that a significand holds. -/
def ofSignificand (negative : Bool) (n : Nat) : Number :=
  if negative then
    if n = 0 ∨ Nat.pow 2 63 < n then .double (signed true ((Binary64.ofNat n).getD default))
    else .int (-n)
  else .int n

/-- The number a numeral stands for. -/
def value (n : Numeral) : Except ParseError Number :=
  let (whole, beyond) := absorb 0 n.whole
  match n.fraction, n.exponent, beyond with
  | none, none, [] => .ok (ofSignificand n.negative whole)
  | _, _, _ =>
    let fraction := n.fraction.getD []
    let (significand, unread) := absorb whole fraction
    let shift : Int := match n.exponent with
      | none => 0
      | some (true, ds) => -(digitsValue ds : Int)
      | some (false, ds) => digitsValue ds
    let power : Int := (beyond.length : Int) - (fraction.length - unread.length : Nat) + shift
    match scaled significand power with
    | some x => .ok (.double (signed n.negative x))
    | none => .error .numberOutOfRange

end Numeral

end GeneralApplications.Json

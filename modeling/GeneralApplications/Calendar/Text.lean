import GeneralApplications.Calendar.Date
import GeneralApplications.Text.Blank
import GeneralApplications.Text.Digits

/-!
# Dates as text

A date is written as year, month and day between hyphens; years outside 0 to 9999 carry a sign. It
is read more freely: blanks may stand before each number, before each hyphen and at the end, month
and day may have one digit, the year up to four, or any number after a sign.
-/

namespace GeneralApplications.Date

open Text

/-- Why a text is not a date. -/
inductive ReadError where
  | outOfRange
  | invalid
  | tooShort
  | tooLong
  deriving DecidableEq, Repr

/-- The wording of an error. -/
def ReadError.message : ReadError → String
  | outOfRange => "input is out of range"
  | invalid => "input contains invalid characters"
  | tooShort => "premature end of input"
  | tooLong => "trailing input"

/-! ## Writing -/

/-- The digits of a number with leading zeros up to a width. -/
def padded (width n : Nat) : List Char :=
  let ds := Nat.toDigits 10 n
  List.replicate (width - ds.length) '0' ++ ds

/-- The year with at least four digits; one outside 0 to 9999 with its sign. -/
def yearText (year : Int) : List Char :=
  if 0 ≤ year ∧ year ≤ 9999 then padded 4 year.toNat
  else if year < 0 then '-' :: padded 4 year.natAbs
  else '+' :: padded 4 year.natAbs

/-- The written date. -/
def chars (d : Date) : List Char :=
  yearText d.year ++ ['-'] ++ padded 2 d.month ++ ['-'] ++ padded 2 d.day

/-- The written date. -/
def text (d : Date) : String :=
  String.ofList d.chars

/-! ## Reading -/

/-- Digits from the first character on, at most `width` of them, as a number below `2 ^ 63`. -/
def scanNumber (width : Nat) (cs : List Char) : Except ReadError (Nat × List Char) :=
  match cs with
  | [] => .error .tooShort
  | _ =>
    match (cs.take width).takeWhile Char.isDigit with
    | [] => .error .invalid
    | ds =>
      if digitsValue ds < Nat.pow 2 63 then .ok (digitsValue ds, cs.drop ds.length)
      else .error .outOfRange

/-- The year: up to four digits, or any number of them after a sign. -/
def scanYear (cs : List Char) : Except ReadError (Int × List Char) := do
  let (year, rest) ← match trimStart cs with
    | '-' :: r => do
      let (n, r) ← scanNumber r.length r
      pure (-(n : Int), r)
    | '+' :: r => do
      let (n, r) ← scanNumber r.length r
      pure ((n : Int), r)
    | r => do
      let (n, r) ← scanNumber 4 r
      pure ((n : Int), r)
  if -Int.pow 2 31 ≤ year ∧ year < Int.pow 2 31 then return (year, rest)
  else .error .outOfRange

/-- A number of one or two digits from 1 to `limit`. -/
def scanPart (limit : Nat) (cs : List Char) : Except ReadError (Nat × List Char) := do
  let (n, rest) ← scanNumber 2 (trimStart cs)
  if 1 ≤ n ∧ n ≤ limit then return (n, rest) else .error .outOfRange

/-- A hyphen, possibly after blanks. -/
def scanHyphen (cs : List Char) : Except ReadError (List Char) :=
  match trimStart cs with
  | [] => .error .tooShort
  | c :: r => if c = '-' then .ok r else .error .invalid

/-- The date that a text denotes. -/
def ofChars (cs : List Char) : Except ReadError Date := do
  let (year, cs) ← scanYear cs
  let cs ← scanHyphen cs
  let (month, cs) ← scanPart 12 cs
  let cs ← scanHyphen cs
  let (day, cs) ← scanPart 31 cs
  match trimStart cs with
  | _ :: _ => .error .tooLong
  | [] =>
    match ofNumbers? year month day with
    | some d => return d
    | none => .error .outOfRange

/-- The date that a text denotes. -/
def ofText (s : String) : Except ReadError Date :=
  ofChars s.toList

end GeneralApplications.Date

/-!
# Decimal and hexadecimal digits

Reading numbers written in digits. `digitsValue` is the value of a digit string, most significant
digit first; `unsigned?` reads a bounded natural number with an optional plus sign.
-/

namespace GeneralApplications.Text

/-- The value of a decimal digit. -/
def digitValue (c : Char) : Nat :=
  c.toNat - '0'.toNat

/-- The number that a list of decimal digits denotes, most significant first. -/
def digitsValue (cs : List Char) : Nat :=
  cs.foldl (fun n c => 10 * n + digitValue c) 0

/-- The value of a hexadecimal digit of either case. -/
def hexValue? (c : Char) : Option Nat :=
  if c.isDigit then some (digitValue c)
  else if 'a' ≤ c ∧ c ≤ 'f' then some (c.toNat - 'a'.toNat + 10)
  else if 'A' ≤ c ∧ c ≤ 'F' then some (c.toNat - 'A'.toNat + 10)
  else none

/-- The number that a list of hexadecimal digits denotes. -/
def hexDigitsValue? (cs : List Char) : Option Nat :=
  cs.foldl (fun n c => do return 16 * (← n) + (← hexValue? c)) (some 0)

/-- A natural number below `limit`: an optional plus sign, then one digit or more. -/
def unsigned? (limit : Nat) (cs : List Char) : Option Nat :=
  let digits := match cs with
    | '+' :: r => r
    | r => r
  if digits.isEmpty || !digits.all Char.isDigit then none
  else if digitsValue digits < limit then some (digitsValue digits)
  else none

/-- The lower-case hexadecimal digits of a number, without leading zeros. -/
def hexText (n : Nat) : String :=
  String.ofList (Nat.toDigits 16 n)

theorem digitsValue_append_singleton (xs : List Char) (c : Char) :
    digitsValue (xs ++ [c]) = 10 * digitsValue xs + digitValue c := by
  simp [digitsValue]

end GeneralApplications.Text

import GeneralApplications.Text.Digits
import GeneralApplications.Text.Pieces

/-!
# Sets and tables of characters

A character class of the Unicode standard is a list of closed ranges of code points.

A table gives lists of code points to ranges of code points. It is written as entries between blanks,
with all numbers in hexadecimal: `first..last` is a range and `first` alone a range of one code point;
`/2` behind a range leaves every second code point out; values stand behind a colon and are divided by
full stops.
-/

namespace GeneralApplications.Text

/-- Membership in a union of closed ranges. -/
def inRanges (ranges : List (Nat × Nat)) (n : Nat) : Bool :=
  ranges.any fun r => r.1 ≤ n && n ≤ r.2

/-- A range of code points, of which each one or each second one counts, and what they have in the
table. -/
structure TableEntry where
  first : Nat
  last : Nat
  step : Nat
  values : List Nat
  deriving DecidableEq, Repr

/-- The entries of a table, in ascending order. -/
abbrev Table : Type :=
  List TableEntry

namespace TableEntry

/-- The numbers between full stops. -/
def numbers (cs : List Char) : List Nat :=
  ((pieces '.' cs).filter (!·.isEmpty)).filterMap hexDigitsValue?

/-- The entry that a text denotes. -/
def ofText (cs : List Char) : TableEntry :=
  let (range, values) := cutAt ':' cs
  let (ends, step) := cutAt '/' range
  let ends := numbers ends
  { first := ends.headD 0
    last := ends.getLastD 0
    step := ((step.bind hexDigitsValue?).getD 1)
    values := numbers (values.getD []) }

/-- The entry is about a code point. -/
def covers (e : TableEntry) (n : Nat) : Bool :=
  e.first ≤ n && n ≤ e.last && (n - e.first) % e.step = 0

end TableEntry

namespace Table

/-- The table that a text denotes. -/
def ofText (s : String) : Table :=
  ((pieces ' ' (s.toList.map fun c => if c = '\n' then ' ' else c)).filter (!·.isEmpty)).map
    TableEntry.ofText

/-- The entry about a code point. -/
def find? (t : Table) (n : Nat) : Option TableEntry :=
  List.find? (·.covers n) t

/-- The table has an entry about a character. -/
def contains (t : Table) (c : Char) : Bool :=
  (t.find? c.toNat).isSome

/-- What a character has in the table. -/
def values (t : Table) (c : Char) : List Nat :=
  (t.find? c.toNat).elim [] (·.values)

end Table

end GeneralApplications.Text

/-!
# Calendar dates

Days of the proleptic Gregorian calendar within the supported years. A `Date` is always a day that
exists (`Date.real`); dates are ordered by year, then month, then day.
-/

namespace GeneralApplications

/-- The year has a 29 February. -/
def isLeapYear (year : Int) : Bool :=
  year % 4 = 0 && (year % 100 ≠ 0 || year % 400 = 0)

/-- The number of days of a month. -/
def daysInMonth (year : Int) (month : Nat) : Nat :=
  if month = 2 then if isLeapYear year then 29 else 28
  else if month = 4 ∨ month = 6 ∨ month = 9 ∨ month = 11 then 30
  else 31

/-- The first year of the calendar. -/
def minYear : Int := -262143

/-- The last year of the calendar. -/
def maxYear : Int := 262142

/-- The day exists. -/
def IsDay (year : Int) (month day : Nat) : Prop :=
  (minYear ≤ year ∧ year ≤ maxYear) ∧ (1 ≤ month ∧ month ≤ 12) ∧
    (1 ≤ day ∧ day ≤ daysInMonth year month)

instance (year : Int) (month day : Nat) : Decidable (IsDay year month day) := by
  unfold IsDay; infer_instance

/-- A day of the calendar. -/
structure Date where
  year : Int
  month : Nat
  day : Nat
  real : IsDay year month day
  deriving DecidableEq

namespace Date

instance : Repr Date := ⟨fun d _ => repr d.year ++ "-" ++ repr d.month ++ "-" ++ repr d.day⟩

/-- The day with these numbers, if there is one. -/
def ofNumbers? (year : Int) (month day : Nat) : Option Date :=
  if h : IsDay year month day then some ⟨year, month, day, h⟩ else none

/-- One day comes before another. -/
def Before (a b : Date) : Prop :=
  a.year < b.year ∨ a.year = b.year ∧ (a.month < b.month ∨ a.month = b.month ∧ a.day < b.day)

instance : LT Date := ⟨Before⟩

instance (a b : Date) : Decidable (a < b) := by
  change Decidable (Before a b); unfold Before; infer_instance

instance : LE Date := ⟨fun a b => ¬ b < a⟩

instance (a b : Date) : Decidable (a ≤ b) := by
  change Decidable (¬ b < a); infer_instance

theorem lt_iff {a b : Date} :
    a < b ↔ a.year < b.year ∨
      a.year = b.year ∧ (a.month < b.month ∨ a.month = b.month ∧ a.day < b.day) :=
  Iff.rfl

theorem le_iff {a b : Date} : a ≤ b ↔ ¬ b < a :=
  Iff.rfl

/-- What lies before a day lies before every later day. -/
theorem lt_of_lt_of_le {a b c : Date} (hab : a < b) (hbc : b ≤ c) : a < c := by
  rw [le_iff] at hbc
  rw [lt_iff] at *
  omega

theorem ofNumbers?_eq_some_iff {year : Int} {month day : Nat} {d : Date} :
    ofNumbers? year month day = some d ↔ d.year = year ∧ d.month = month ∧ d.day = day := by
  unfold ofNumbers?
  constructor
  · intro h
    split at h
    · cases h; simp
    · cases h
  · rintro ⟨rfl, rfl, rfl⟩
    simp [d.real]

end Date

end GeneralApplications

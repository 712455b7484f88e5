import GeneralApplications.Calendar.Text
import GeneralApplications.Proofs.Json.Reading
import Mathlib.Algebra.Group.Nat.Defs

/-!
# Reading dates back

A date is read back from its written form (`Date.ofText_text`). Its numbers are written with leading
zeros, so that each scan finds as many digits as it looks for, or all digits in front of a hyphen.
-/

namespace GeneralApplications.Date

open Text

/-! ## Padded numbers -/

theorem digitsValue_toDigits (n : Nat) : digitsValue (Nat.toDigits 10 n) = n :=
  Nat.ofDigitChars_toDigits (by decide) (by decide)

/-- Zeros in front of a number do not change its value. -/
theorem digitsValue_replicate_zero_append (k : Nat) (cs : List Char) :
    digitsValue (List.replicate k '0' ++ cs) = digitsValue cs := by
  induction k with
  | zero => rfl
  | succ k ih => rw [List.replicate_succ, List.cons_append, ← ih]; rfl

theorem digitsValue_padded (width n : Nat) : digitsValue (padded width n) = n := by
  rw [padded, digitsValue_replicate_zero_append, digitsValue_toDigits]

theorem isDigit_of_mem_padded {width n : Nat} {c : Char} (h : c ∈ padded width n) :
    c.isDigit = true := by
  rcases List.mem_append.1 h with h | h
  · rw [List.eq_of_mem_replicate h]
    decide
  · exact Nat.isDigit_of_mem_toDigits (by decide) (by decide) h

theorem padded_ne_nil (width n : Nat) : padded width n ≠ [] := by
  simp [padded, Nat.toDigits_ne_nil]

/-- A number that fits takes up exactly the width. -/
theorem length_padded {width n : Nat} (hw : 0 < width) (h : n < 10 ^ width) :
    (padded width n).length = width := by
  have hle : (Nat.toDigits 10 n).length ≤ width :=
    (Nat.length_toDigits_le_iff (by decide) hw).2 h
  simp only [padded, List.length_append, List.length_replicate]
  omega

theorem exists_cons_padded (width n : Nat) :
    ∃ c r, padded width n = c :: r ∧ c.isDigit = true := by
  cases h : padded width n with
  | nil => exact absurd h (padded_ne_nil width n)
  | cons c r => exact ⟨c, r, rfl, isDigit_of_mem_padded (h ▸ List.mem_cons_self)⟩

/-! ## Scans -/

/-- No blanks are passed over in front of a digit. -/
theorem trimStart_padded_append (width n : Nat) (rest : List Char) :
    trimStart (padded width n ++ rest) = padded width n ++ rest := by
  obtain ⟨c, r, hp, hc⟩ := exists_cons_padded width n
  rw [hp, List.cons_append, trimStart, List.dropWhile_cons_of_neg]
  simp [isBlank_of_isDigit hc]

theorem trimStart_of_head {c : Char} (hc : isBlank c = false) (rest : List Char) :
    trimStart (c :: rest) = c :: rest := by
  rw [trimStart, List.dropWhile_cons_of_neg (by simp [hc])]

/-- A scan ends behind a padded number if it may take no more digits, or if none follow. -/
theorem scanNumber_padded {limit width n : Nat} {rest : List Char} (hn : n < Nat.pow 2 63)
    (hw : (padded width n).length ≤ limit)
    (hrest : (padded width n).length = limit ∨ ∀ c ∈ rest.head?, c.isDigit = false) :
    scanNumber limit (padded width n ++ rest) = .ok (n, rest) := by
  have htake : ((padded width n ++ rest).take limit).takeWhile Char.isDigit = padded width n := by
    rw [List.take_append, List.take_of_length_le hw,
      List.takeWhile_append_of_pos fun c hc => isDigit_of_mem_padded hc]
    rcases hrest with hlen | hhead
    · simp [hlen]
    · cases rest with
      | nil => simp
      | cons c r =>
        have hc : c.isDigit = false := hhead c rfl
        cases limit - (padded width n).length <;> simp [hc]
  obtain ⟨c, r, hp, _⟩ := exists_cons_padded width n
  have hvalue := digitsValue_padded width n
  rw [hp] at htake hvalue ⊢
  simp only [scanNumber, List.cons_append] at htake ⊢
  simp [htake, hvalue, hn]

theorem scanPart_padded {limit n : Nat} {rest : List Char} (hpos : 1 ≤ n) (hle : n ≤ limit)
    (hlimit : limit < 100) : scanPart limit (padded 2 n ++ rest) = .ok (n, rest) := by
  have hlen : (padded 2 n).length = 2 := length_padded (by decide) (by omega)
  have hn : n < Nat.pow 2 63 := Nat.lt_trans (show n < 100 by omega) (by decide)
  rw [scanPart, trimStart_padded_append, scanNumber_padded hn (Nat.le_of_eq hlen) (.inl hlen)]
  simp [bind, Except.bind, hpos, hle, pure, Except.pure]

theorem scanHyphen_cons (rest : List Char) : scanHyphen ('-' :: rest) = .ok rest := by
  rw [scanHyphen, trimStart_of_head (by decide)]
  rfl

/-- A scan without a limit ends behind a number in front of a hyphen. -/
theorem scanNumber_before_hyphen {year : Nat} (h : year < 262144) (rest : List Char) :
    scanNumber (padded 4 year ++ '-' :: rest).length (padded 4 year ++ '-' :: rest) =
      .ok (year, '-' :: rest) := by
  have hn : year < Nat.pow 2 63 := Nat.lt_trans h (by decide)
  refine scanNumber_padded hn (by simp) (.inr ?_)
  rintro c ⟨⟩
  decide

/-! ## Years -/

/-- Every year of the calendar is in the range of years that can be read. -/
theorem year_readable {year : Int} (hmin : minYear ≤ year) (hmax : year ≤ maxYear) :
    -Int.pow 2 31 ≤ year ∧ year < Int.pow 2 31 := by
  have hpow : Int.pow 2 31 = 2147483648 := rfl
  rw [hpow]
  simp only [minYear, maxYear] at hmin hmax
  omega

section
variable {year : Nat} {cs rest : List Char}

-- The year is generalised before the range is looked at, so that its comparisons are not computed.

theorem scanYear_plus (hmax : (year : Int) ≤ maxYear)
    (h : scanNumber cs.length cs = .ok (year, rest)) :
    scanYear ('+' :: cs) = .ok ((year : Int), rest) := by
  have hrange := year_readable (by simp only [minYear]; omega) hmax
  rw [scanYear, trimStart_of_head (by decide)]
  refine Json.bind_eq_ok_iff.2 ⟨_, h, Json.bind_eq_ok_iff.2 ⟨_, rfl, ?_⟩⟩
  generalize (year : Int) = y at hrange ⊢
  exact if_pos hrange

theorem scanYear_minus (hmin : minYear ≤ -(year : Int))
    (h : scanNumber cs.length cs = .ok (year, rest)) :
    scanYear ('-' :: cs) = .ok (-(year : Int), rest) := by
  have hrange := year_readable hmin (by simp only [maxYear]; omega)
  rw [scanYear, trimStart_of_head (by decide)]
  refine Json.bind_eq_ok_iff.2 ⟨_, h, Json.bind_eq_ok_iff.2 ⟨_, rfl, ?_⟩⟩
  generalize -(year : Int) = y at hrange ⊢
  exact if_pos hrange

/-- Without a sign four digits are read. -/
theorem scanYear_padded (h : year ≤ 9999) :
    scanYear (padded 4 year ++ rest) = .ok ((year : Int), rest) := by
  have hlen : (padded 4 year).length = 4 := length_padded (by decide) (by omega)
  have hn : year < Nat.pow 2 63 := Nat.lt_trans (show year < 10000 by omega) (by decide)
  have hrange : -Int.pow 2 31 ≤ (year : Int) ∧ (year : Int) < Int.pow 2 31 :=
    year_readable (by simp only [minYear]; omega) (by simp only [maxYear]; omega)
  have hscan : scanNumber 4 (padded 4 year ++ rest) = .ok (year, rest) :=
    scanNumber_padded hn (Nat.le_of_eq hlen) (.inl hlen)
  obtain ⟨c, r, hp, hc⟩ := exists_cons_padded 4 year
  rw [scanYear, trimStart_padded_append]
  rw [hp, List.cons_append] at hscan ⊢
  split
  next heq =>
    obtain ⟨rfl, -⟩ := List.cons.inj heq
    exact absurd hc (by decide)
  next heq =>
    obtain ⟨rfl, -⟩ := List.cons.inj heq
    exact absurd hc (by decide)
  next =>
    refine Json.bind_eq_ok_iff.2 ⟨_, hscan, Json.bind_eq_ok_iff.2 ⟨_, rfl, ?_⟩⟩
    generalize (year : Int) = y at hrange ⊢
    exact if_pos hrange

end

/-- A year of the calendar is read back in front of a hyphen. -/
theorem scanYear_yearText {year : Int} (hmin : minYear ≤ year) (hmax : year ≤ maxYear)
    (rest : List Char) :
    scanYear (yearText year ++ '-' :: rest) = .ok (year, '-' :: rest) := by
  have habs : year.natAbs < 262144 := by
    simp only [minYear, maxYear] at hmin hmax
    omega
  have hscan := scanNumber_before_hyphen habs rest
  unfold yearText
  split
  next h =>
    have hyear : (year.toNat : Int) = year := Int.toNat_of_nonneg h.1
    rw [scanYear_padded (by omega), hyear]
  next h =>
    split
    next hneg =>
      have hyear : -(year.natAbs : Int) = year := by omega
      rw [List.cons_append, scanYear_minus (by rwa [hyear]) hscan, hyear]
    next hneg =>
      have hyear : (year.natAbs : Int) = year := by omega
      rw [List.cons_append, scanYear_plus (by rwa [hyear]) hscan, hyear]

/-! ## Dates -/

theorem daysInMonth_le (year : Int) (month : Nat) : daysInMonth year month ≤ 31 := by
  unfold daysInMonth
  split
  · split <;> decide
  · split <;> decide

/-- A date is read back from its characters. -/
theorem ofChars_chars (d : Date) : ofChars d.chars = .ok d := by
  obtain ⟨⟨hmin, hmax⟩, ⟨hm, hm'⟩, hd, hd'⟩ := d.real
  have hday : d.day ≤ 31 := Nat.le_trans hd' (daysInMonth_le d.year d.month)
  have hchars : d.chars =
      yearText d.year ++ '-' :: (padded 2 d.month ++ '-' :: (padded 2 d.day ++ [])) := by
    simp [chars]
  have hnumbers : ofNumbers? d.year d.month d.day = some d :=
    ofNumbers?_eq_some_iff.2 ⟨rfl, rfl, rfl⟩
  rw [hchars, ofChars, scanYear_yearText hmin hmax]
  simp only [bind, Except.bind, scanHyphen_cons, scanPart_padded hm hm' (by decide),
    scanPart_padded hd hday (by decide)]
  simp [trimStart, hnumbers, pure, Except.pure]

/-- A date is read back from its text. -/
theorem ofText_text (d : Date) : ofText d.text = .ok d := by
  rw [ofText, text, String.toList_ofList, ofChars_chars]

end GeneralApplications.Date

import GeneralApplications.Text.Table

/-!
# White space

The characters with the Unicode property `White_Space`, and the operations that remove them from
the ends of a text. Texts are lists of characters here, so that the operations are recursions on
their data; nothing is left of a text exactly if it has blanks only (`trim_eq_nil_iff`).
-/

namespace GeneralApplications.Text

/-- The code points with the property `White_Space`. -/
def blankRanges : List (Nat × Nat) :=
  [(0x9, 0xD), (0x20, 0x20), (0x85, 0x85), (0xA0, 0xA0), (0x1680, 0x1680), (0x2000, 0x200A),
   (0x2028, 0x2029), (0x202F, 0x202F), (0x205F, 0x205F), (0x3000, 0x3000)]

/-- White space in the sense of the Unicode standard. -/
def isBlank (c : Char) : Bool :=
  inRanges blankRanges c.toNat

/-- The text without its leading blanks. -/
def trimStart (cs : List Char) : List Char :=
  cs.dropWhile isBlank

/-- The text without its trailing blanks. -/
def trimEnd (cs : List Char) : List Char :=
  (cs.reverse.dropWhile isBlank).reverse

/-- The text without its leading and trailing blanks. -/
def trim (cs : List Char) : List Char :=
  trimEnd (trimStart cs)

/-- No digit is blank. -/
theorem isBlank_of_isDigit {c : Char} (h : c.isDigit = true) : isBlank c = false := by
  have h' : 48 ≤ c.toNat ∧ c.toNat ≤ 57 := by
    simpa [Char.isDigit, UInt32.le_iff_toNat_le] using h
  simp [isBlank, inRanges, blankRanges]
  omega

section
variable {cs : List Char}

theorem forall_isBlank_of_dropWhile (h : ∀ c ∈ cs.dropWhile isBlank, isBlank c = true) :
    ∀ c ∈ cs, isBlank c = true := by
  have hany : (cs.dropWhile isBlank).any (!isBlank ·) = false :=
    List.any_eq_false.2 fun c hc => by simp [h c hc]
  rw [List.any_dropWhile] at hany
  simpa using hany

theorem dropWhile_isBlank_eq_nil_iff :
    cs.dropWhile isBlank = [] ↔ ∀ c ∈ cs, isBlank c = true := by
  refine ⟨fun h => forall_isBlank_of_dropWhile (by simp [h]), fun h => ?_⟩
  have hdrop : (cs ++ []).dropWhile isBlank = [] := List.dropWhile_append_of_pos h
  rwa [List.append_nil] at hdrop

/-- Nothing is left of a text exactly if it has blanks only. -/
theorem trim_eq_nil_iff : trim cs = [] ↔ ∀ c ∈ cs, isBlank c = true := by
  simp only [trim, trimEnd, trimStart, List.reverse_eq_nil_iff, dropWhile_isBlank_eq_nil_iff,
    List.mem_reverse]
  exact ⟨forall_isBlank_of_dropWhile, fun h c hc => h c (List.dropWhile_subset _ hc)⟩

end

end GeneralApplications.Text

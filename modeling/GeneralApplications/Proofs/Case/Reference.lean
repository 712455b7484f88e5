import GeneralApplications.Proofs.Case.RoundTrip
import Mathlib.Data.List.Induction
import Mathlib.Data.List.TakeWhile
import Mathlib.Data.Nat.Digits.Defs

/-!
# Written case references

Which texts are read as a case reference, and as which one. A written reference consists of groups
of digits with one separator between neighbours (`Grouped`); there may be blanks around it, and the
digits of all groups together are the decimal notation of its number (`Denotes`). Every such text is
read, however many digits it has, if its number is in range, and no other text is
(`ofText?_eq_some_iff`).

A link names its case by such a text. Where the groups are cut makes no difference to it, and a text
that is no reference links to no case at all.

Main result: `reading_law`.
-/

namespace GeneralApplications

/-! ## Blanks around a text -/

namespace Text

variable {before text after : List Char}

/-- What stands in front of the first character without a property is dropped. -/
theorem dropWhile_append_eq {p : Char → Bool} (hbefore : ∀ c ∈ before, p c = true)
    (hhead : ∀ c ∈ text.head?, p c = false) : (before ++ text).dropWhile p = text := by
  rw [List.dropWhile_append_of_pos hbefore]
  cases text with
  | nil => rfl
  | cons c r => rw [List.dropWhile_cons_of_neg (by simp [hhead c rfl])]

/-- Blanks around a text are removed, and nothing else. -/
theorem trim_append (hbefore : ∀ c ∈ before, isBlank c = true)
    (hafter : ∀ c ∈ after, isBlank c = true) (hne : text ≠ [])
    (hhead : ∀ c ∈ text.head?, isBlank c = false)
    (hlast : ∀ c ∈ text.getLast?, isBlank c = false) : trim (before ++ text ++ after) = text := by
  have hstart : trimStart (before ++ text ++ after) = text ++ after := by
    rw [trimStart, List.append_assoc]
    refine dropWhile_append_eq hbefore fun c hc => hhead c ?_
    rwa [List.head?_append_of_ne_nil _ hne] at hc
  have hreverse : (after.reverse ++ text.reverse).dropWhile isBlank = text.reverse :=
    dropWhile_append_eq (by simpa using hafter) (by simpa using hlast)
  rw [trim, hstart, trimEnd, List.reverse_append, hreverse, List.reverse_reverse]

/-- A text is its trimmed form with blanks around it. -/
theorem exists_eq_append_trim (cs : List Char) : ∃ before after,
    cs = before ++ trim cs ++ after ∧ (∀ c ∈ before, isBlank c = true) ∧
      ∀ c ∈ after, isBlank c = true := by
  have hend : trimStart cs =
      trim cs ++ ((trimStart cs).reverse.takeWhile isBlank).reverse := by
    rw [trim, trimEnd, ← List.reverse_append, List.takeWhile_append_dropWhile,
      List.reverse_reverse]
  refine ⟨cs.takeWhile isBlank, ((trimStart cs).reverse.takeWhile isBlank).reverse, ?_, ?_, ?_⟩
  · rw [List.append_assoc, ← hend, trimStart, List.takeWhile_append_dropWhile]
  · exact fun c hc => List.mem_takeWhile_imp hc
  · exact fun c hc => List.mem_takeWhile_imp (List.mem_reverse.1 hc)

/-- The value of digits is the sum of their place values. -/
theorem digitsValue_eq_ofDigits (ds : List Char) :
    digitsValue ds = Nat.ofDigits 10 (ds.reverse.map digitValue) := by
  induction ds using List.reverseRecOn with
  | nil => rfl
  | append_singleton ds c ih =>
    rw [digitsValue_append_singleton, ih, List.reverse_append, List.reverse_singleton,
      List.singleton_append, List.map_cons, Nat.ofDigits_cons, Nat.add_comm]

end Text

namespace CaseReference

open Text

/-! ## The grammar -/

/-- Groups of digits with one separator between neighbours, and the digits of all groups. -/
inductive Grouped : List Char → List Char → Prop
  | single {g : List Char} (hne : g ≠ []) (hdigits : ∀ c ∈ g, c.isDigit = true) : Grouped g g
  | cons {g text digits : List Char} {separator : Char} (hne : g ≠ [])
    (hdigits : ∀ c ∈ g, c.isDigit = true) (hseparator : separator = '-' ∨ separator = ' ')
    (rest : Grouped text digits) : Grouped (g ++ separator :: text) (g ++ digits)

/-- The text is written in groups of digits, with blanks around them, and its digits denote the
number in decimal notation. -/
inductive Denotes : List Char → Nat → Prop
  | intro {before text after digits : List Char} (hbefore : ∀ c ∈ before, isBlank c = true)
    (grouped : Grouped text digits) (hafter : ∀ c ∈ after, isBlank c = true) :
    Denotes (before ++ text ++ after) (Nat.ofDigits 10 (digits.reverse.map digitValue))

theorem isGroup_iff {g : List Char} : isGroup g = true ↔ g ≠ [] ∧ ∀ c ∈ g, c.isDigit = true := by
  simp [isGroup]

theorem isSeparator_iff {c : Char} : isSeparator c = true ↔ c = '-' ∨ c = ' ' := by
  simp [isSeparator]

theorem isSeparator_of_isDigit {c : Char} (h : c.isDigit = true) : isSeparator c = false := by
  rw [Bool.eq_false_iff, Ne, isSeparator_iff]
  rintro (rfl | rfl)
  · exact absurd h (by decide)
  · exact absurd h (by decide)

variable {text digits : List Char}

theorem Grouped.ne_nil (h : Grouped text digits) : text ≠ [] := by
  cases h with
  | single hne _ => exact hne
  | cons hne _ _ _ => simp

theorem Grouped.isBlank_head (h : Grouped text digits) : ∀ c ∈ text.head?, isBlank c = false := by
  cases h with
  | single hne hdigits =>
    exact fun c hc => isBlank_of_isDigit (hdigits c (List.mem_of_head? hc))
  | cons hne hdigits _ _ =>
    intro c hc
    rw [List.head?_append_of_ne_nil _ hne] at hc
    exact isBlank_of_isDigit (hdigits c (List.mem_of_head? hc))

theorem Grouped.isBlank_getLast (h : Grouped text digits) :
    ∀ c ∈ text.getLast?, isBlank c = false := by
  induction h with
  | single hne hdigits =>
    exact fun c hc => isBlank_of_isDigit (hdigits c (List.mem_of_getLast? hc))
  | cons _ _ _ rest ih =>
    intro c hc
    rw [List.getLast?_append_of_ne_nil _ (by simp), List.getLast?_cons_of_ne_nil rest.ne_nil] at hc
    exact ih c hc

/-! ## Cutting at separators -/

theorem groups_eq_splitOnP (cs : List Char) : groups cs = cs.splitOnP isSeparator := by
  induction cs with
  | nil => rfl
  | cons c r ih =>
    rw [List.splitOnP_cons_eq_if_modifyHead, ← ih, groups]
    split
    next => rfl
    next =>
      cases hgroups : groups r with
      | nil => exact absurd (ih.symm.trans hgroups) (List.splitOnP_ne_nil _ _)
      | cons g gs => rfl

/-- The digits between separators are the groups of the grammar. -/
theorem Grouped.groups_spec (h : Grouped text digits) :
    (groups text).all isGroup = true ∧ (groups text).flatten = digits := by
  induction h with
  | single hne hdigits =>
    have hgroups : groups _ = _ := (groups_eq_splitOnP _).trans
      (List.splitOnP_eq_singleton fun c hc => isSeparator_of_isDigit (hdigits c hc))
    simp [hgroups, isGroup_iff.2 ⟨hne, hdigits⟩]
  | @cons g text digits separator hne hdigits hseparator rest ih =>
    have hgroups : groups (g ++ separator :: text) = g :: groups text := by
      rw [groups_eq_splitOnP, groups_eq_splitOnP]
      exact List.splitOnP_append_cons_of_forall_mem
        (fun c hc => isSeparator_of_isDigit (hdigits c hc)) _ (isSeparator_iff.2 hseparator) _
    simp [hgroups, isGroup_iff.2 ⟨hne, hdigits⟩, ih]

/-- A text is one group, or it goes on after the first group and a separator. -/
theorem groups_cases (cs : List Char) : groups cs = [cs] ∨
    ∃ g separator r, isSeparator separator = true ∧ cs = g ++ separator :: r ∧
      groups cs = g :: groups r := by
  simp only [groups_eq_splitOnP]
  cases hfind : cs.find? isSeparator with
  | none => exact .inl (List.splitOnP_eq_singleton (by simpa using hfind))
  | some c =>
    obtain ⟨hc, g, r, rfl, hg⟩ := List.find?_eq_some_iff_append.1 hfind
    refine .inr ⟨g, c, r, hc, rfl, List.splitOnP_append_cons_of_forall_mem ?_ _ hc _⟩
    simpa using hg

/-- Where all that stands between separators are groups, the text keeps to the grammar. The
induction is on the groups, which are cut off one after another. -/
theorem grouped_of_groups (cs : List Char) (h : (groups cs).all isGroup = true) :
    Grouped cs (groups cs).flatten := by
  generalize hgs : groups cs = gs at h ⊢
  induction gs generalizing cs with
  | nil => exact absurd ((groups_eq_splitOnP cs).symm.trans hgs) (List.splitOnP_ne_nil _ _)
  | cons g gs ih =>
    rw [List.all_cons, Bool.and_eq_true] at h
    obtain ⟨hne, hdigits⟩ := isGroup_iff.1 h.1
    rcases groups_cases cs with hone | ⟨g', separator, r, hseparator, rfl, hmore⟩
    · obtain ⟨rfl, rfl⟩ := List.cons.inj (hone.symm.trans hgs)
      simpa using Grouped.single hne hdigits
    · obtain ⟨rfl, hrest⟩ := List.cons.inj (hmore.symm.trans hgs)
      exact .cons hne hdigits (isSeparator_iff.1 hseparator) (ih r hrest h.2)

/-! ## Reading texts -/

/-- What a text denotes is found by trimming it and cutting it at separators. -/
theorem denotes_iff {cs : List Char} {n : Nat} :
    Denotes cs n ↔ (groups (trim cs)).all isGroup = true ∧
      digitsValue (groups (trim cs)).flatten = n := by
  constructor
  · rintro ⟨hbefore, grouped, hafter⟩
    obtain ⟨hall, hdigits⟩ := grouped.groups_spec
    rw [trim_append hbefore hafter grouped.ne_nil grouped.isBlank_head grouped.isBlank_getLast,
      hdigits, digitsValue_eq_ofDigits]
    exact ⟨hall, rfl⟩
  · rintro ⟨hall, rfl⟩
    obtain ⟨before, after, hcs, hbefore, hafter⟩ := exists_eq_append_trim cs
    have grouped := grouped_of_groups _ hall
    rw [digitsValue_eq_ofDigits]
    generalize trim cs = text at hcs grouped ⊢
    rw [hcs]
    exact .intro hbefore grouped hafter

theorem ofText?_eq_some_iff {s : String} {r : CaseReference} :
    ofText? s = some r ↔ Denotes s.toList r.number := by
  rw [denotes_iff, ofText?, ofChars?]
  split
  next hall => rw [ofNat?_eq_some_iff, and_iff_right hall, eq_comm]
  next hall => simp [hall]

/-- A text is read if and only if it denotes a number in range. -/
theorem exists_ofText?_iff {s : String} :
    (∃ r, ofText? s = some r) ↔ ∃ n, Denotes s.toList n ∧ 0 < n ∧ n < 2 ^ 63 := by
  simp only [ofText?_eq_some_iff]
  constructor
  · rintro ⟨r, hr⟩
    exact ⟨r.number, hr, r.positive, r.bounded⟩
  · rintro ⟨n, hn, hpos, hlt⟩
    exact ⟨⟨n, hpos, hlt⟩, hn⟩

/-- The written form is one group. -/
theorem grouped_text (r : CaseReference) : Grouped r.text.toList r.text.toList := by
  have htext : r.text.toList = Nat.toDigits 10 r.number := by simp [CaseReference.text]
  rw [htext]
  exact .single Nat.toDigits_ne_nil fun c hc =>
    Nat.isDigit_of_mem_toDigits (by decide) (by decide) hc

theorem ofText?_text (r : CaseReference) : ofText? r.text = some r := by
  have htext : r.text.toList = Nat.toDigits 10 r.number := by simp [CaseReference.text]
  have hvalue : Nat.ofDigits 10 (r.text.toList.reverse.map digitValue) = r.number := by
    rw [← digitsValue_eq_ofDigits, htext, Date.digitsValue_toDigits]
  have hdenotes : Denotes ([] ++ r.text.toList ++ []) _ :=
    .intro (List.forall_mem_nil _) r.grouped_text (List.forall_mem_nil _)
  rw [hvalue, List.nil_append, List.append_nil] at hdenotes
  exact ofText?_eq_some_iff.2 hdenotes

/-! ## Reading values -/

/-- A reference is given by a whole number or by a text, and by nothing else. -/
theorem ofJson_eq_ok_iff {j : Json} {r : CaseReference} :
    ofJson j = .ok r ↔ j = .ofInt r.number ∨ ∃ s, j = .string s ∧ ofText? s = some r := by
  cases j with
  | number n =>
    cases n with
    | int n => simp [ofJson_int_eq_ok_iff, Json.ofInt]
    | double x => simp [ofJson, Json.ofInt]
  | string s =>
    simp only [ofJson]
    cases hs : ofText? s <;> simp [Json.ofInt, hs]
  | null => simp [ofJson, Json.ofInt]
  | bool b => simp [ofJson, Json.ofInt]
  | array items => simp [ofJson, Json.ofInt]
  | object members => simp [ofJson, Json.ofInt]

/-- It is so given in a value or in the value of a text. -/
theorem decode_eq_ok_iff {τ : Type} [Json.Readable τ] {t : τ} {r : CaseReference} :
    codec.decode t = .ok r ↔ ∃ j, Json.Readable.free t = .ok j ∧
      (j = .ofInt r.number ∨ ∃ s, j = .string s ∧ ofText? s = some r) := by
  have hdecode : codec.decode t =
      (do let j ← Json.lift (Json.Readable.free t); (ofJson j).mapError .here) := rfl
  rw [hdecode, Json.bind_eq_ok_iff]
  simp only [Json.lift, Json.mapError_eq_ok_iff, ofJson_eq_ok_iff]

/-! ## Links -/

theorem eq_iff_number_eq {r r' : CaseReference} : r = r' ↔ r.number = r'.number := by
  cases r
  cases r'
  simp

/-- A link leads to the case whose reference its text is read as. -/
theorem target_mk (s : String) : (CaseLink.mk (some s)).target = ofText? s := rfl

theorem linksTo_iff {summary : ApplicationSummary} {s : String} (h : summary.link = some ⟨some s⟩)
    (child : CaseReference) : summary.linksTo child = true ↔ ofText? s = some child := by
  simp [ApplicationSummary.linksTo, h, target_mk]

/-- Links by texts that are references lead to the same case if these have the same number. -/
theorem links_agree_iff {s t : String} {r r' : CaseReference} (hs : ofText? s = some r)
    (ht : ofText? t = some r') :
    ((CaseLink.mk (some s)).target = (CaseLink.mk (some t)).target ↔ r.number = r'.number) ∧
      ∀ summary : ApplicationSummary, summary.link = some ⟨some s⟩ →
        (summary.linksTo r' = true ↔ r.number = r'.number) := by
  constructor
  · rw [target_mk, target_mk, hs, ht, Option.some_inj, eq_iff_number_eq]
  · intro summary hlink
    rw [linksTo_iff hlink, hs, Option.some_inj, eq_iff_number_eq]

/-- A link by a text that is no reference leads to no case. -/
theorem links_nowhere {s : String} (h : ofText? s = none) :
    (CaseLink.mk (some s)).target = none ∧
      ∀ summary : ApplicationSummary, summary.link = some ⟨some s⟩ →
        ∀ child, summary.linksTo child = false := by
  refine ⟨h, fun summary hlink child => ?_⟩
  rw [Bool.eq_false_iff, Ne, linksTo_iff hlink, h]
  simp

/-- What is read as a case reference. A text is read if and only if it is written in groups of
digits, with blanks around them, and its digits denote a number in range; the reference has that
number. A value is read if and only if it is a whole number in range or such a text. What is written
for a reference, as a text or as a value, is read back. So two links by texts that are references
lead to the same case if and only if the digits denote the same number, and a link by any other text
leads to none. -/
theorem reading_law :
    (∀ s r, ofText? s = some r ↔ Denotes s.toList r.number) ∧
    (∀ s, (∃ r, ofText? s = some r) ↔ ∃ n, Denotes s.toList n ∧ 0 < n ∧ n < 2 ^ 63) ∧
    (∀ (τ : Type) [Json.Readable τ] (t : τ) r, codec.decode t = .ok r ↔
      ∃ j, Json.Readable.free t = .ok j ∧
        (j = .ofInt r.number ∨ ∃ s, j = .string s ∧ ofText? s = some r)) ∧
    (∀ r : CaseReference, ofText? r.text = some r ∧
      (codec : Json.Codec Json CaseReference).decode
        ((codec : Json.Codec Json CaseReference).encode r) = .ok r) ∧
    (∀ s t r r', ofText? s = some r → ofText? t = some r' →
      ((CaseLink.mk (some s)).target = (CaseLink.mk (some t)).target ↔ r.number = r'.number) ∧
      ∀ summary : ApplicationSummary, summary.link = some ⟨some s⟩ →
        (summary.linksTo r' = true ↔ r.number = r'.number)) ∧
    (∀ s, ofText? s = none → (CaseLink.mk (some s)).target = none ∧
      ∀ summary : ApplicationSummary, summary.link = some ⟨some s⟩ →
        ∀ child, summary.linksTo child = false) := by
  refine ⟨fun s r => ofText?_eq_some_iff, fun s => exists_ofText?_iff, ?_, ?_, ?_, ?_⟩
  · exact fun τ _ t r => decode_eq_ok_iff
  · exact fun r => ⟨ofText?_text r, r.roundTrips.2⟩
  · exact fun s t r r' hs ht => links_agree_iff hs ht
  · exact fun s h => links_nowhere h

/-- A reference in groups after a no-break space, and the same one with zeros in front of it: an
application filed on the one is about the other. A separator too many makes a text that is about no
case. -/
theorem reading_law_grouped :
    let summary (s : String) : ApplicationSummary := ⟨none, some ⟨some s⟩, none, none, ∅⟩
    let r : CaseReference := ⟨1644495739087775, by decide, by decide⟩
    ofText? "\u00a01644-4957 3908-7775" = some r ∧ ofText? "00001644495739087775 " = some r ∧
      (summary "\u00a01644-4957 3908-7775").linksTo r = true ∧
      ofText? "1644--4957" = none ∧ (summary "1644--4957").linksTo r = false := by
  intro summary r
  obtain ⟨-, -, -, -, hagree, hnowhere⟩ := reading_law
  have hgroups : ofText? "\u00a01644-4957 3908-7775" = some r := by decide +kernel
  have hzeros : ofText? "00001644495739087775 " = some r := by decide +kernel
  have hnone : ofText? "1644--4957" = none := by decide +kernel
  exact ⟨hgroups, hzeros, ((hagree _ _ r r hgroups hzeros).2 _ rfl).2 rfl, hnone,
    (hnowhere _ hnone).2 _ rfl r⟩

end CaseReference

end GeneralApplications

import GeneralApplications.Text.Digits

/-!
# Percent encoding

In a URL a percent sign followed by two hexadecimal digits stands for a byte. A percent sign that
no two digits follow stands for itself.

Main results:
* `percentDecode_triple`, `percentDecode_percent`, `percentDecode_cons_of_ne`: what the bytes at the
  beginning stand for, case by case.
* `decodePart?_eq_some_iff`, `decodePart?_eq_none_iff`: a part of a URL stands for the text whose
  UTF-8 bytes it encodes, and for none exactly if they are not the bytes of any text.
* `decodePart?_eq_self`: a part without percent signs stands for itself.
* `decodePart?_percentEncode`: decoding undoes encoding.
-/

namespace GeneralApplications.Http

open Text

/-- The byte with a given value below 256. -/
def byte (n : Nat) : UInt8 :=
  UInt8.ofNat n

/-- The bytes of a text in UTF-8. -/
def utf8 (s : String) : List UInt8 :=
  s.toUTF8.toList

/-- The text of a sequence of bytes, if they are UTF-8. -/
def ofUtf8? (bytes : List UInt8) : Option String :=
  String.fromUTF8? ⟨bytes.toArray⟩

/-- The byte of an ASCII character. -/
def ascii (c : Char) : UInt8 :=
  byte c.toNat

/-- The value of a byte that is a hexadecimal digit. -/
def hexByte? (b : UInt8) : Option Nat :=
  hexValue? (Char.ofNat b.toNat)

/-- The byte for which three bytes stand: a percent sign and two digits. -/
def percentTriple? (p h l : UInt8) : Option UInt8 :=
  if p = ascii '%' then do return byte (16 * (← hexByte? h) + (← hexByte? l)) else none

/-- The bytes for which percent-encoded bytes stand. -/
def percentDecode : List UInt8 → List UInt8
  | p :: h :: l :: rest =>
    match percentTriple? p h l with
    | some b => b :: percentDecode rest
    | none => p :: percentDecode (h :: l :: rest)
  | short => short

/-- The text that a part of a URL stands for, if its bytes are UTF-8. -/
def decodePart? (s : String) : Option String :=
  ofUtf8? (percentDecode (utf8 s))

/-- The upper-case hexadecimal digit of a number below 16. -/
def upperHex (n : Nat) : Char :=
  (Nat.digitChar n).toUpper

/-- A byte as a percent sign and two digits. -/
def percentByte (b : UInt8) : List Char :=
  ['%', upperHex (b.toNat / 16), upperHex (b.toNat % 16)]

/-- A text in which every character of a set, and every one outside ASCII, is percent-encoded. -/
def percentEncode (special : Char → Bool) (cs : List Char) : List Char :=
  cs.flatMap fun c =>
    if 0x7F ≤ c.toNat ∨ c.toNat < 0x20 ∨ special c then
      (utf8 (String.singleton c)).flatMap percentByte
    else [c]

/-! ## Bytes of a text -/

/-- As long as the loop has collected the bytes in front of its position, it ends with all of
them. -/
theorem toList_loop {bytes : ByteArray} {i : Nat} {r : List UInt8}
    (hr : r.reverse = bytes.data.toList.take i) :
    ByteArray.toList.loop bytes i r = bytes.data.toList := by
  fun_induction ByteArray.toList.loop bytes i r with
  | case1 i r hi ih =>
    have hi' : i < bytes.data.toList.length := by simpa using hi
    have hget : bytes.get! i = bytes.data.toList[i] := by simp [ByteArray.get!, hi]
    refine ih ?_
    rw [List.reverse_cons, hr, hget, ← List.take_succ_eq_append_getElem]
  | case2 i r hi =>
    rw [hr, List.take_of_length_le (by simpa using Nat.le_of_not_lt hi)]

theorem toList_eq_data (bytes : ByteArray) : bytes.toList = bytes.data.toList :=
  toList_loop rfl

/-- The bytes of a text are those of its characters, in order. -/
theorem utf8_eq (s : String) : utf8 s = s.toList.flatMap String.utf8EncodeChar := by
  rw [utf8, toList_eq_data, String.toUTF8_eq_toByteArray, ← String.utf8Encode_toList]
  simp [List.utf8Encode]

/-- Bytes are read as the one text that has them. -/
theorem ofUtf8?_eq_some_iff {bytes : List UInt8} {s : String} :
    ofUtf8? bytes = some s ↔ utf8 s = bytes := by
  have hbytes : utf8 s = bytes ↔ s.toByteArray = ⟨bytes.toArray⟩ := by
    rw [utf8, toList_eq_data, String.toUTF8_eq_toByteArray, ByteArray.ext_iff, ← Array.toList_inj]
  rw [hbytes, ofUtf8?, String.fromUTF8?]
  constructor
  · intro h
    split at h
    next hvalid =>
      obtain rfl := Option.some.inj h
      rfl
    next => cases h
  · intro h
    have hvalid : ByteArray.IsValidUTF8 ⟨bytes.toArray⟩ := h ▸ s.isValidUTF8
    rw [dif_pos hvalid]
    exact congrArg some (String.toByteArray_inj.1 h.symm)

theorem utf8EncodeChar_ascii {c : Char} (h : c.toNat < 128) :
    String.utf8EncodeChar c = [ascii c] := by
  have hc : c.val.toNat ≤ 127 := Nat.le_of_lt_succ h
  simp only [String.utf8EncodeChar, if_pos hc]
  rfl

theorem flatMap_utf8EncodeChar_of_ascii {cs : List Char} (h : ∀ c ∈ cs, c.toNat < 128) :
    cs.flatMap String.utf8EncodeChar = cs.map ascii := by
  induction cs with
  | nil => rfl
  | cons c cs ih =>
    rw [List.flatMap_cons, utf8EncodeChar_ascii (h c List.mem_cons_self), List.map_cons,
      ih fun d hd => h d (List.mem_cons_of_mem c hd)]
    rfl

/-- The bytes of a character outside ASCII are outside ASCII too. -/
theorem le_of_mem_utf8EncodeChar {c : Char} (h : 128 ≤ c.toNat) {b : UInt8}
    (hb : b ∈ String.utf8EncodeChar c) : 128 ≤ b.toNat := by
  have hlead : ∀ n, 128 ≤ n → n < 256 → 128 ≤ (UInt8.ofNat n).toNat := by
    intro n hn hlt
    rwa [UInt8.toNat_ofNat_of_lt' hlt]
  have hc : ¬ c.val.toNat ≤ 127 := Nat.not_le_of_lt h
  simp only [String.utf8EncodeChar, if_neg hc] at hb
  split at hb
  · simp only [List.mem_cons, List.not_mem_nil, or_false] at hb
    rcases hb with rfl | rfl <;> exact hlead _ (by omega) (by omega)
  · split at hb
    · simp only [List.mem_cons, List.not_mem_nil, or_false] at hb
      rcases hb with rfl | rfl | rfl <;> exact hlead _ (by omega) (by omega)
    · simp only [List.mem_cons, List.not_mem_nil, or_false] at hb
      rcases hb with rfl | rfl | rfl | rfl <;> exact hlead _ (by omega) (by omega)

/-- No other character has the byte of a percent sign. -/
theorem percent_not_mem_utf8EncodeChar {c : Char} (h : c ≠ '%') :
    ascii '%' ∉ String.utf8EncodeChar c := by
  intro hmem
  by_cases hc : c.toNat < 128
  · rw [utf8EncodeChar_ascii hc, List.mem_singleton] at hmem
    have hbyte : 37 = c.toNat % 256 := congrArg UInt8.toNat hmem
    have hpercent : c.toNat = '%'.toNat := by
      rw [Nat.mod_eq_of_lt (by omega)] at hbyte
      exact hbyte.symm
    exact h (Char.toNat_inj.1 hpercent)
  · exact absurd (le_of_mem_utf8EncodeChar (Nat.le_of_not_lt hc) hmem) (by decide)

/-! ## What is decoded -/

/-- Any byte but a percent sign stands for itself. -/
theorem percentDecode_cons_of_ne {b : UInt8} (hb : b ≠ ascii '%') (rest : List UInt8) :
    percentDecode (b :: rest) = b :: percentDecode rest := by
  rcases rest with _ | ⟨h, _ | ⟨l, rest⟩⟩
  · rfl
  · rfl
  · have htriple : percentTriple? b h l = none := if_neg hb
    simp only [percentDecode, htriple]

/-- A percent sign and two digits stand for a byte. -/
theorem percentDecode_triple {h l : UInt8} {m n : Nat} (hh : hexByte? h = some m)
    (hl : hexByte? l = some n) (rest : List UInt8) :
    percentDecode (ascii '%' :: h :: l :: rest) = byte (16 * m + n) :: percentDecode rest := by
  have htriple : percentTriple? (ascii '%') h l = some (byte (16 * m + n)) := by
    simp [percentTriple?, hh, hl]
  simp only [percentDecode, htriple]

/-- A percent sign that no two digits follow stands for itself. -/
theorem percentDecode_percent {rest : List UInt8}
    (h : ∀ b c, [b, c] <+: rest → hexByte? b = none ∨ hexByte? c = none) :
    percentDecode (ascii '%' :: rest) = ascii '%' :: percentDecode rest := by
  rcases rest with _ | ⟨b, _ | ⟨c, rest⟩⟩
  · rfl
  · rfl
  · have htriple : percentTriple? (ascii '%') b c = none := by
      rcases h b c ⟨rest, rfl⟩ with hb | hc
      · simp [percentTriple?, hb]
      · cases hb : hexByte? b <;> simp [percentTriple?, hb, hc]
    simp only [percentDecode, htriple]

/-- Bytes without percent signs stand for themselves. -/
theorem percentDecode_append_of_not_mem {bytes : List UInt8} (h : ascii '%' ∉ bytes)
    (rest : List UInt8) : percentDecode (bytes ++ rest) = bytes ++ percentDecode rest := by
  induction bytes with
  | nil => rfl
  | cons b bytes ih =>
    obtain ⟨hb, hbytes⟩ := List.ne_and_not_mem_of_not_mem_cons h
    rw [List.cons_append, percentDecode_cons_of_ne hb.symm, ih hbytes, List.cons_append]

theorem hexByte?_upperHex : ∀ n < 16, hexByte? (ascii (upperHex n)) = some n := by
  decide

/-- A byte that is written as a triple is read back. -/
theorem percentDecode_percentByte (b : UInt8) (rest : List UInt8) :
    percentDecode ((percentByte b).map ascii ++ rest) = b :: percentDecode rest := by
  have hhigh := hexByte?_upperHex (b.toNat / 16) (by have := b.toNat_lt; omega)
  have hlow := hexByte?_upperHex (b.toNat % 16) (Nat.mod_lt _ (by decide))
  have hbyte : byte (16 * (b.toNat / 16) + b.toNat % 16) = b := by
    rw [Nat.div_add_mod, byte, UInt8.ofNat_toNat]
  exact (percentDecode_triple hhigh hlow rest).trans (congrArg (· :: _) hbyte)

theorem percentDecode_percentBytes (bytes rest : List UInt8) :
    percentDecode ((bytes.flatMap percentByte).map ascii ++ rest) =
      bytes ++ percentDecode rest := by
  induction bytes with
  | nil => rfl
  | cons b bytes ih =>
    rw [List.flatMap_cons, List.map_append, List.append_assoc, percentDecode_percentByte, ih,
      List.cons_append]

theorem toNat_lt_of_mem_percentByte {b : UInt8} {c : Char} (h : c ∈ percentByte b) :
    c.toNat < 128 := by
  have hhex : ∀ n < 16, (upperHex n).toNat < 128 := by decide
  have hb := b.toNat_lt
  simp only [percentByte, List.mem_cons, List.not_mem_nil, or_false] at h
  rcases h with rfl | rfl | rfl
  · decide
  · exact hhex _ (by omega)
  · exact hhex _ (by omega)

/-- What is percent-encoded stands for the text itself, as long as the percent signs of the text are
encoded too. -/
theorem percentDecode_percentEncode {special : Char → Bool} {cs : List Char}
    (h : '%' ∈ cs → special '%' = true) :
    percentDecode ((percentEncode special cs).flatMap String.utf8EncodeChar) =
      cs.flatMap String.utf8EncodeChar := by
  -- Each character is written as itself, which is no percent sign, or as the triples of its bytes.
  induction cs with
  | nil => rfl
  | cons c cs ih =>
    have ih := ih fun hmem => h (List.mem_cons_of_mem c hmem)
    rw [percentEncode] at ih ⊢
    rw [List.flatMap_cons, List.flatMap_append, List.flatMap_cons]
    split
    · have hbytes : utf8 (String.singleton c) = String.utf8EncodeChar c := by
        simp [utf8_eq]
      rw [flatMap_utf8EncodeChar_of_ascii, hbytes, percentDecode_percentBytes, ih]
      intro d hd
      obtain ⟨b, -, hd⟩ := List.mem_flatMap.1 hd
      exact toNat_lt_of_mem_percentByte hd
    next hplain =>
      have hc : c ≠ '%' := by
        rintro rfl
        exact hplain (.inr (.inr (h List.mem_cons_self)))
      rw [List.flatMap_singleton,
        percentDecode_append_of_not_mem (percent_not_mem_utf8EncodeChar hc), ih]

/-! ## What a part of a URL stands for -/

section
variable {s t : String}

/-- A part stands for the text whose bytes it encodes. -/
theorem decodePart?_eq_some_iff : decodePart? s = some t ↔ utf8 t = percentDecode (utf8 s) :=
  ofUtf8?_eq_some_iff

/-- A part stands for no text exactly if the bytes that it encodes are those of none. -/
theorem decodePart?_eq_none_iff :
    decodePart? s = none ↔ ∀ t, utf8 t ≠ percentDecode (utf8 s) := by
  rw [Option.eq_none_iff_forall_ne_some]
  exact forall_congr' fun t => not_congr decodePart?_eq_some_iff

/-- A part without percent signs stands for itself. -/
theorem decodePart?_eq_self (h : '%' ∉ s.toList) : decodePart? s = some s := by
  have hbytes : ascii '%' ∉ utf8 s := by
    rw [utf8_eq, List.mem_flatMap]
    rintro ⟨c, hc, hmem⟩
    exact percent_not_mem_utf8EncodeChar (fun heq => h (heq ▸ hc)) hmem
  have hdecode := percentDecode_append_of_not_mem hbytes []
  rw [List.append_nil] at hdecode
  rw [decodePart?_eq_some_iff, hdecode]
  exact (List.append_nil _).symm

/-- A text that is percent-encoded, its percent signs included, is read back. -/
theorem decodePart?_percentEncode {special : Char → Bool} {cs : List Char}
    (h : '%' ∈ cs → special '%' = true) :
    decodePart? (String.ofList (percentEncode special cs)) = some (String.ofList cs) := by
  rw [decodePart?_eq_some_iff, utf8_eq, utf8_eq, String.toList_ofList, String.toList_ofList,
    percentDecode_percentEncode h]

end

end GeneralApplications.Http

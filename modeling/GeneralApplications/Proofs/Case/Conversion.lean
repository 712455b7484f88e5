import GeneralApplications.Case.Conversion
import GeneralApplications.Proofs.Case.Retention

/-!
# Snapshots, records and data

What a record has that was read from a snapshot, and what the data has that is written from a
record, key by key. The envelope keys aside, data is what the record's object has, with `null`
under cleared keys that it lacks; so it holds the same scalars (`holds_toData_iff`).
-/

namespace GeneralApplications

open Json

/-- Which fields were cleared makes no difference to what the fields read. -/
theorem CaseRecord.reads_cleared_iff {f : RecordField CaseRecord} (hf : f ∈ fields)
    {fs : Findings Json} {c : CaseRecord} {ks : List String} :
    f.Reads fs { c with cleared := ks } ↔ f.Reads fs c := by
  revert f
  simp only [fields, List.forall_mem_cons]
  exact ⟨.rfl, .rfl, .rfl, .rfl, .rfl, .rfl, .rfl, .rfl, .rfl, .rfl, .rfl, by simp⟩

/-! ## From snapshots -/

namespace CaseSnapshot

theorem toRecord_eq_ok_iff {s : CaseSnapshot} {c : CaseRecord} :
    s.toRecord = .ok c ↔
      ∃ r, (CaseRecord.codec : Codec Json CaseRecord).decode s.recordObject.toJson = .ok r ∧
        c = { r with cleared := (nullKeys s.recordObject).filter fun k => !r.rest.contains k } := by
  simp only [toRecord]
  cases (CaseRecord.codec : Codec Json CaseRecord).decode s.recordObject.toJson with
  | error e => simp
  | ok r => simp [eq_comm]

/-- Only under the envelope keys the data is changed before it is read. -/
theorem get?_recordObject {s : CaseSnapshot} {k : String} (hk : k ∉ CaseRecord.envelopeKeys) :
    s.recordObject.get? k = s.data.get? k := by
  simp only [CaseRecord.envelopeKeys, List.mem_cons, List.not_mem_nil, or_false, not_or] at hk
  simp only [recordObject]
  cases s.state with
  | none => simp [Object.get?_erase, Object.get?_insert, Ne.symm hk.1, Ne.symm hk.2]
  | some state => simp [Object.get?_insert, Ne.symm hk.1, Ne.symm hk.2]

theorem get?_recordObject_reference (s : CaseSnapshot) :
    s.recordObject.get? "ccdCaseReference" = some (.ofInt s.id.number) := by
  simp only [recordObject]
  cases s.state <;> simp [Object.get?_erase, Object.get?_insert]

/-- Every field of a record that was read from a snapshot was found in the record object. -/
theorem reads_of_toRecord {s : CaseSnapshot} {c : CaseRecord} (h : s.toRecord = .ok c)
    {f : RecordField CaseRecord} (hf : f ∈ CaseRecord.fields) :
    f.Reads (.ofMembers s.recordObject.entries) c := by
  obtain ⟨r, hdec, rfl⟩ := toRecord_eq_ok_iff.1 h
  rw [CaseRecord.reads_cleared_iff hf]
  obtain ⟨name, l, hc, hl, hd, ha⟩ := CaseRecord.isOpenRecord
  rw [hc] at hdec
  obtain ⟨members, hm, hvisit, build, hread, rfl⟩ := Codec.decode_openRecord hdec
  cases hm
  exact (hl.read _ _ hread _).2 f hf

theorem items_recordObject {s : CaseSnapshot} {k : String} (hk : k ∉ CaseRecord.envelopeKeys) :
    s.recordObject.items k = s.data.items k := by
  rw [Object.items, Object.items, get?_recordObject hk]

/-- A collection of a record is read from the items of the data. -/
theorem forall₂_items {α : Type} {s : CaseSnapshot} {c : CaseRecord} (h : s.toRecord = .ok c)
    {name : String} {get : CaseRecord → List α} {codec : Codec Json α}
    (hf : RecordField.collection name get codec ∈ CaseRecord.fields)
    (hk : name ∉ CaseRecord.envelopeKeys) :
    List.Forall₂ (fun j a => codec.decode j = .ok a) (s.data.items name) (get c) := by
  rw [← items_recordObject hk]
  exact RecordField.forall₂_items_of_reads (reads_of_toRecord h hf)

theorem forall₂_respondentView {s : CaseSnapshot} {c : CaseRecord} (h : s.toRecord = .ok c) :
    List.Forall₂ (fun j e => (Entry.codec ApplicationSummary.codec).decode j = .ok e)
      (s.data.items "gaDetailsRespondentSol") c.respondentView :=
  forall₂_items h CaseRecord.respondentView_mem_fields (by decide)

/-- The further members of a record are apart from its fields. -/
theorem apart_of_toRecord {s : CaseSnapshot} {c : CaseRecord} (h : s.toRecord = .ok c) :
    c.Apart := by
  obtain ⟨r, hdec, rfl⟩ := toRecord_eq_ok_iff.1 h
  have hr : r.Apart := (CaseRecord.apart_of_decode hdec).1
  exact ⟨hr.rest, hr.applications, hr.respondentView⟩

/-- The reference of a record is the envelope's. -/
theorem reference_of_toRecord {s : CaseSnapshot} {c : CaseRecord} (h : s.toRecord = .ok c) :
    c.reference = some s.id := by
  have hread := reads_of_toRecord h (List.mem_cons_self ..)
  have hkey := s.get?_recordObject_reference
  rcases RecordField.reads_optional_iff.1 hread with ⟨hnone, _⟩ | ⟨t, ht, hdec⟩
  · rw [Object.get?, hnone] at hkey
    cases hkey
  · obtain rfl := Option.some.inj (ht.symm.trans hkey)
    have hback : (CaseReference.codec : Codec Json CaseReference).decode (.ofInt s.id.number) =
        .ok s.id := (CaseReference.roundTrips s.id).2
    rw [readOption_json (by simp [Json.ofInt]), hback] at hdec
    exact (Except.ok.inj hdec).symm

/-- Of the scalars of the data that are not under an envelope key, the record's object has those
that case data keeps. -/
theorem holds_object_of_toRecord {s : CaseSnapshot} {c : CaseRecord} (h : s.toRecord = .ok c)
    {k : String} (hk : k ∉ CaseRecord.envelopeKeys) {path : List Step} {v : Json}
    (hv : s.data.toJson.Holds (.key k :: path) v) :
    c.object.toJson.Holds (.key k :: path) v ↔
      CaseRecord.retention s.data.toJson (.key k :: path) := by
  obtain ⟨r, hdec, rfl⟩ := toRecord_eq_ok_iff.1 h
  have hv' : s.recordObject.toJson.Holds (.key k :: path) v := by
    rwa [holds_toJson_key_iff, get?_recordObject hk, ← holds_toJson_key_iff]
  have hkept : CaseRecord.retention s.recordObject.toJson (.key k :: path) ↔
      CaseRecord.retention s.data.toJson (.key k :: path) := by
    simp only [CaseRecord.retention, Retention.openRecord, Retention.record, Object.toJson,
      Object.ofMembers_entries, get?_recordObject hk]
  exact (CaseRecord.retains hdec hv').trans hkept

end CaseSnapshot

namespace CaseRecord

/-! ## The record's object -/

theorem exists_lists :
    ∃ l : Layout Json CaseRecord (Object → CaseRecord), l.Lists fields ∧ Distinct l.places ∧
      ∀ c : CaseRecord, c.object = (l.object c).override c.rest := by
  obtain ⟨name, l, hc, hl, hd, _⟩ := isOpenRecord
  refine ⟨l, hl.toLists, hd, fun c => ?_⟩
  have hencode : c.object.toJson = ((l.object c).override c.rest).toJson :=
    congrArg (fun d : Codec Json CaseRecord => d.encode c) hc
  exact Object.entries_injective (Json.object.inj hencode)

/-- Under the name of a field the object has what the field writes, unless the record has a further
member of that name. -/
theorem get?_object {f : RecordField CaseRecord} (hf : f ∈ fields) (c : CaseRecord) :
    c.object.get? f.name = (c.rest.get? f.name).or (f.write c) := by
  obtain ⟨l, hl, hd, hobj⟩ := exists_lists
  rw [hobj, Object.get?_override, hl.get?_object hd hf]

/-! ## To data -/

theorem get?_clearIfAbsent (o : Object) (k k' : String) :
    (clearIfAbsent o k).get? k' = (o.get? k').or (if k = k' then some .null else none) := by
  unfold clearIfAbsent
  split
  next h =>
    obtain ⟨v, hv⟩ := Option.isSome_iff_exists.1 h
    by_cases hk : k = k'
    · simp [← hk, hv]
    · simp [hk]
  next h =>
    have hn : o.get? k = none := Option.not_isSome_iff_eq_none.1 h
    by_cases hk : k = k'
    · simp [← hk, hn]
    · simp [hk, Object.get?_insert]

theorem get?_foldl_clearIfAbsent (ks : List String) (o : Object) (k : String) :
    (ks.foldl clearIfAbsent o).get? k =
      (o.get? k).or (if k ∈ ks then some .null else none) := by
  induction ks generalizing o with
  | nil => simp
  | cons k' ks ih =>
    rw [List.foldl_cons, ih, get?_clearIfAbsent]
    by_cases hk : k' = k
    · cases o.get? k <;> simp [hk]
    · simp [hk, Ne.symm hk]

theorem get?_toData (c : CaseRecord) (k : String) :
    c.toData.get? k =
      if k ∈ envelopeKeys then none
      else (c.object.get? k).or (if k ∈ c.cleared then some .null else none) := by
  simp only [toData, envelopeKeys, List.foldl_cons, List.foldl_nil, Object.get?_erase,
    get?_foldl_clearIfAbsent, List.mem_cons, List.not_mem_nil, or_false]
  by_cases h₁ : k = "ccdCaseReference"
  · simp [h₁]
  · by_cases h₂ : k = "ccdState"
    · simp [h₂]
    · simp [h₁, h₂, Ne.symm h₁, Ne.symm h₂]

/-- Under other keys than the envelope's the data holds what the record's object holds. -/
theorem holds_toData_iff {c : CaseRecord} {k : String} {path : List Step} {v : Json}
    (hk : k ∉ envelopeKeys) :
    c.toData.toJson.Holds (.key k :: path) v ↔ c.object.toJson.Holds (.key k :: path) v := by
  rw [holds_toJson_key_iff, holds_toJson_key_iff, get?_toData, if_neg hk]
  cases c.object.get? k with
  | some t => simp
  | none => by_cases hc : k ∈ c.cleared <;> simp [hc]

end CaseRecord

end GeneralApplications

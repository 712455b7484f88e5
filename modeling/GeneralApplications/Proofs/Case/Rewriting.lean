import GeneralApplications.Proofs.Case.Conversion
import GeneralApplications.Proofs.Case.RoundTrip
import GeneralApplications.Proofs.Json.Rewriting

/-!
# Case data read and written again

What the data of a snapshot becomes when it is read as a record and written as data again
(`CaseSnapshot.rewriting_law`). What the envelope decides is left out, unknown members stay as they
are, and each typed field is rewritten on its own. The data that results is read as the same record.
-/

namespace GeneralApplications

open Json

/-! ## Typed fields -/

/-- How the typed fields of case data are rewritten, but for those that the envelope decides. -/
def CaseRecord.rewritings : List Rewriting :=
  [.optional "generalAppParentCaseLink" CaseLink.codec,
   .optional "applicationIsUncloakedOnce" YesNo.codec,
   .optional "generalAppInformOtherParty" Notice.codec,
   .collection "generalAppRespondentSolicitors" (Entry.codec Solicitor.codec),
   .optional "judicialDecision" JudicialDecision.codec,
   .optional "judicialDecisionMakeOrderForWrittenRepresentations" WrittenRepresentations.codec,
   .optional "judicialDecisionRequestMoreInfo" InformationRequest.codec,
   .collection "generalApplicationsDetails" (Entry.codec ApplicationSummary.codec),
   .collection "gaDetailsRespondentSol" (Entry.codec ApplicationSummary.codec)]

/-- The names of all typed fields. -/
def CaseRecord.typedNames : List String :=
  envelopeKeys ++ rewritings.map (·.name)

theorem CaseRecord.typedNames_eq_fields : typedNames = fields.map (·.name) := rfl

theorem CaseRecord.typedNames_eq_places :
    typedNames = (layout : Layout Json CaseRecord (Object → CaseRecord)).places.map (·.name) := rfl

theorem CaseRecord.Apart.get?_rest {c : CaseRecord} (h : c.Apart) {k : String}
    (hk : k ∈ CaseRecord.typedNames) : c.rest.get? k = none := by
  rw [CaseRecord.typedNames_eq_fields] at hk
  obtain ⟨f, hf, rfl⟩ := List.mem_map.1 hk
  exact h.rest f hf

/-! ## The record's object -/

namespace CaseRecord

/-- Under other names than those of the fields the object has the record's further members. -/
theorem get?_object_of_not_mem {k : String} (hk : k ∉ typedNames) (c : CaseRecord) :
    c.object.get? k = c.rest.get? k := by
  obtain ⟨l, hl, _, hobj⟩ := exists_lists
  have hne : ∀ f ∈ fields, f.name ≠ k := by
    rintro f hf rfl
    exact hk (typedNames_eq_fields ▸ List.mem_map_of_mem hf)
  rw [hobj, Object.get?_override, hl.get?_object_eq_none hne, Option.or_none]

/-- Under the names of the fields the object has what the layout writes. -/
theorem get?_object_of_mem_write {c : CaseRecord} (h : c.Apart) {w : String × Option Json}
    (hw : w ∈ (layout : Layout Json CaseRecord (Object → CaseRecord)).write c) :
    c.object.get? w.1 = w.2 := by
  have hname : w.1 ∈ typedNames := by
    rw [typedNames_eq_places, ← (restores h).names]
    exact List.mem_map_of_mem hw
  rw [object, Object.get?_override, h.get?_rest hname, Option.none_or,
    (restores h).get?_object layout_distinct hw]

theorem get?_object_ne_null {c : CaseRecord} (h : c.Apart) {k : String} (hk : k ∈ typedNames) :
    c.object.get? k ≠ some .null := by
  rw [typedNames_eq_places, ← (restores h).names] at hk
  obtain ⟨w, hw, rfl⟩ := List.mem_map.1 hk
  rw [get?_object_of_mem_write h hw]
  exact (restores h).ne_null w hw

end CaseRecord

/-! ## From snapshots -/

namespace CaseSnapshot

theorem mem_nullKeys_iff {o : Object} {k : String} :
    k ∈ nullKeys o ↔ o.get? k = some .null := by
  simp only [nullKeys, List.mem_map, List.mem_filter, Object.get?_eq_some_iff, Json.isNull_iff]
  constructor
  · rintro ⟨⟨j, v⟩, ⟨hm, hv⟩, rfl⟩
    exact hv ▸ hm
  · intro hm
    exact ⟨(k, .null), ⟨hm, rfl⟩, rfl⟩

theorem sorted_nullKeys (o : Object) : (nullKeys o).Pairwise (· < ·) :=
  List.pairwise_map.2 (o.sorted.filter _)

theorem get?_recordObject_state (s : CaseSnapshot) :
    s.recordObject.get? "ccdState" = s.state.map .string := by
  simp only [recordObject]
  cases s.state <;> simp [Object.get?_erase]

/-- What the envelope decides is never `null`. -/
theorem get?_recordObject_ne_null {s : CaseSnapshot} {k : String}
    (hk : k ∈ CaseRecord.envelopeKeys) : s.recordObject.get? k ≠ some .null := by
  simp only [CaseRecord.envelopeKeys, List.mem_cons, List.not_mem_nil, or_false] at hk
  rcases hk with rfl | rfl
  · rw [get?_recordObject_reference]
    simp [Json.ofInt]
  · rw [get?_recordObject_state]
    cases s.state <;> simp

/-- What was cleared are the typed fields that the data holds `null` for. -/
theorem mem_cleared_iff {s : CaseSnapshot} {c : CaseRecord} (h : s.toRecord = .ok c) {k : String} :
    k ∈ c.cleared ↔ s.recordObject.get? k = some .null ∧ c.rest.get? k = none := by
  obtain ⟨r, _, rfl⟩ := toRecord_eq_ok_iff.1 h
  simp only [List.mem_filter, mem_nullKeys_iff, Object.contains, Bool.not_eq_true',
    Option.isSome_eq_false_iff, Option.isNone_iff_eq_none]

/-- The state of a record is the envelope's. -/
theorem state_of_toRecord {s : CaseSnapshot} {c : CaseRecord} (h : s.toRecord = .ok c) :
    c.state = s.state := by
  have hf : RecordField.optional "ccdState" (·.state) .string ∈ CaseRecord.fields :=
    List.mem_cons_of_mem _ (List.mem_cons_self ..)
  have hkey := s.get?_recordObject_state
  rcases RecordField.reads_optional_iff.1 (reads_of_toRecord h hf) with ⟨hnone, hs⟩ | ⟨t, ht, hdec⟩
  · rw [Object.get?, hnone] at hkey
    rw [hs]
    exact (Option.map_eq_none_iff.1 hkey.symm).symm
  · have ht : s.recordObject.get? "ccdState" = some t := ht
    rw [ht] at hkey
    obtain ⟨state, hstate, rfl⟩ := Option.map_eq_some_iff.1 hkey.symm
    rw [hstate]
    exact (Except.ok.inj hdec).symm

/-- Further members of a record are those of the data. -/
theorem get?_rest_of_toRecord {s : CaseSnapshot} {c : CaseRecord} (h : s.toRecord = .ok c)
    {k : String} (hk : k ∉ CaseRecord.typedNames) : c.rest.get? k = s.data.get? k := by
  obtain ⟨r, hdec, rfl⟩ := toRecord_eq_ok_iff.1 h
  obtain ⟨name, l, hc, hl, _, ha⟩ := CaseRecord.isOpenRecord
  rw [hc] at hdec
  obtain ⟨members, hm, _, build, hread, rfl⟩ := Codec.decode_openRecord hdec
  cases hm
  have hplace : placeOf? l.places k = none := by
    cases hp : placeOf? l.places k with
    | none => rfl
    | some p =>
      obtain ⟨f, hf, rfl⟩ := hl.exists_of_placeOf? hp
      rw [← name_of_placeOf? ha hp, CaseRecord.typedNames_eq_fields] at hk
      exact absurd (List.mem_map_of_mem hf) hk
  have hrest : (build (Object.ofMembers (unknownMembers l.places s.recordObject.entries))).rest =
      Object.ofMembers (unknownMembers l.places s.recordObject.entries) := (hl.read _ _ hread _).1
  have henvelope : k ∉ CaseRecord.envelopeKeys := fun he => hk (List.mem_append_left _ he)
  rw [hrest, get?_unknownMembers_of_none hplace, Object.ofMembers_entries,
    get?_recordObject henvelope]

end CaseSnapshot

/-! ## To data -/

/-- The record goes with the envelope of the snapshot, and no other fields of it are cleared than
typed ones. -/
structure CaseRecord.Suits (c : CaseRecord) (s : CaseSnapshot) : Prop where
  apart : c.Apart
  reference : c.reference = some s.id
  state : c.state = s.state
  cleared_typed : ∀ k ∈ c.cleared, k ∈ typedNames ∧ k ∉ envelopeKeys
  cleared_sorted : c.cleared.Pairwise (· < ·)

theorem CaseSnapshot.suits_of_toRecord {s : CaseSnapshot} {c : CaseRecord}
    (h : s.toRecord = .ok c) : c.Suits s where
  apart := apart_of_toRecord h
  reference := reference_of_toRecord h
  state := state_of_toRecord h
  cleared_typed k hk := by
    obtain ⟨hnull, hrest⟩ := (mem_cleared_iff h).1 hk
    have henvelope : k ∉ CaseRecord.envelopeKeys := fun he => get?_recordObject_ne_null he hnull
    refine ⟨?_, henvelope⟩
    by_contra htyped
    rw [get?_recordObject henvelope, ← get?_rest_of_toRecord h htyped, hrest] at hnull
    cases hnull
  cleared_sorted := by
    obtain ⟨r, _, rfl⟩ := toRecord_eq_ok_iff.1 h
    exact (sorted_nullKeys _).filter _

namespace CaseRecord

/-- The fields that are still cleared when a record is read back: those without a value. -/
def uncovered (c : CaseRecord) : List String :=
  c.cleared.filter fun k => !c.object.contains k

theorem mem_uncovered_iff {c : CaseRecord} {k : String} :
    k ∈ c.uncovered ↔ k ∈ c.cleared ∧ c.object.get? k = none := by
  simp only [uncovered, List.mem_filter, Object.contains, Bool.not_eq_true',
    Option.isSome_eq_false_iff, Option.isNone_iff_eq_none]

variable {c : CaseRecord} {s : CaseSnapshot}

/-- Of what the envelope decides the record's object has the same. -/
theorem Suits.get?_object_of_envelope (h : c.Suits s) {k : String} (hk : k ∈ envelopeKeys) :
    c.object.get? k = s.recordObject.get? k := by
  have hreference := get?_object (List.mem_cons_self ..) c
  have hstate := get?_object (List.mem_cons_of_mem _ (List.mem_cons_self ..)) c
  rw [h.apart.rest _ (List.mem_cons_self ..)] at hreference
  rw [h.apart.rest _ (List.mem_cons_of_mem _ (List.mem_cons_self ..))] at hstate
  simp only [envelopeKeys, List.mem_cons, List.not_mem_nil, or_false] at hk
  rcases hk with rfl | rfl
  · rw [s.get?_recordObject_reference]
    exact hreference.trans (congrArg (Option.map _) h.reference)
  · rw [s.get?_recordObject_state]
    exact hstate.trans (congrArg (Option.map _) h.state)

/-- What the snapshot's envelope and the data of a record hold under a key. -/
theorem Suits.get?_recordObject_toData (h : c.Suits s) (k : String) :
    (CaseSnapshot.recordObject { s with data := c.toData }).get? k =
      (c.object.get? k).or (if k ∈ c.cleared then some .null else none) := by
  by_cases hk : k ∈ envelopeKeys
  · have hcleared : k ∉ c.cleared := fun hc => (h.cleared_typed k hc).2 hk
    rw [if_neg hcleared, Option.or_none, h.get?_object_of_envelope hk]
    simp only [envelopeKeys, List.mem_cons, List.not_mem_nil, or_false] at hk
    rcases hk with rfl | rfl
    · rw [CaseSnapshot.get?_recordObject_reference, CaseSnapshot.get?_recordObject_reference]
    · rw [CaseSnapshot.get?_recordObject_state, CaseSnapshot.get?_recordObject_state]
  · rw [CaseSnapshot.get?_recordObject hk, get?_toData, if_neg hk]

/-- The data gives each field what it has written. -/
theorem Suits.found (h : c.Suits s) :
    ∀ w ∈ (layout : Layout Json CaseRecord (Object → CaseRecord)).write c,
      Layout.Found (CaseSnapshot.recordObject { s with data := c.toData }).get? w := by
  intro w hw
  unfold Layout.Found
  rw [h.get?_recordObject_toData, get?_object_of_mem_write h.apart hw]
  cases w.2 with
  | some t => exact .inl rfl
  | none =>
    by_cases hc : w.1 ∈ c.cleared
    · exact .inr ⟨rfl, by simp [hc]⟩
    · exact .inl (by simp [hc])

/-- Two ordered lists with the same members are the same. -/
theorem eq_of_sorted {ks ls : List String} (hk : ks.Pairwise (· < ·)) (hl : ls.Pairwise (· < ·))
    (h : ∀ k, k ∈ ks ↔ k ∈ ls) : ks = ls := by
  have hnodup {ms : List String} (hm : ms.Pairwise (· < ·)) : ms.Nodup := by
    refine hm.imp ?_
    rintro k _ hlt rfl
    exact String.lt_irrefl k hlt
  have hperm : ks.Perm ls := (List.perm_ext_iff_of_nodup (hnodup hk) (hnodup hl)).2 h
  exact hperm.eq_of_pairwise (fun a b _ _ hab hba => absurd hab (String.lt_asymm hba)) hk hl

/-- From its own data a record is read back. Of the fields noted as cleared, those remain that have
no value. -/
theorem Suits.toRecord_toData (h : c.Suits s) :
    CaseSnapshot.toRecord { s with data := c.toData } = .ok { c with cleared := c.uncovered } := by
  generalize ho : CaseSnapshot.recordObject { s with data := c.toData } = o
  have hget (k : String) := ho ▸ h.get?_recordObject_toData k
  have hsuits := (restores h.apart).suits o.get? (ho ▸ h.found)
  have hunknown : Object.ofMembers (unknownMembers
      (layout : Layout Json CaseRecord (Object → CaseRecord)).places o.entries) = c.rest := by
    refine unknownMembers_eq rfl (fun p hp => h.apart.get?_rest ?_) fun k hk => ?_
    · rw [typedNames_eq_places]
      exact List.mem_map_of_mem hp
    · rw [← typedNames_eq_places] at hk
      have hcleared : k ∉ c.cleared := fun hc => hk (h.cleared_typed k hc).1
      rw [hget, if_neg hcleared, Option.or_none, get?_object_of_not_mem hk]
  have hdecode : (codec : Codec Json CaseRecord).decode o.toJson =
      .ok { c with rest := c.rest, cleared := [] } := by
    rw [← hunknown]
    exact decode_openRecord_of_suits hsuits (.of_nil rfl o)
  refine CaseSnapshot.toRecord_eq_ok_iff.2 ⟨_, ho ▸ hdecode, ?_⟩
  rw [ho]
  refine congrArg (fun ks => { c with cleared := ks }) (eq_of_sorted ?_ ?_ fun k => ?_)
  · exact h.cleared_sorted.filter _
  · exact (CaseSnapshot.sorted_nullKeys o).filter _
  · have hrest : (!c.rest.contains k) = true ↔ c.rest.get? k = none := by
      simp [Object.contains]
    rw [mem_uncovered_iff, List.mem_filter, CaseSnapshot.mem_nullKeys_iff, hget, hrest]
    constructor
    · rintro ⟨hcleared, hnone⟩
      rw [hnone, if_pos hcleared]
      exact ⟨rfl, h.apart.get?_rest (h.cleared_typed k hcleared).1⟩
    · rintro ⟨hnull, hrest⟩
      cases hobject : c.object.get? k with
      | none =>
        refine ⟨?_, rfl⟩
        by_contra hcleared
        rw [hobject, if_neg hcleared] at hnull
        cases hnull
      | some t =>
        -- Fields are not written as `null`, and further members were not noted as cleared.
        rw [hobject, Option.some_or] at hnull
        by_cases hk : k ∈ typedNames
        · exact absurd (hobject.trans hnull) (get?_object_ne_null h.apart hk)
        · rw [get?_object_of_not_mem hk, hrest] at hobject
          cases hobject

end CaseRecord

/-! ## Reading and writing again -/

namespace CaseSnapshot

section
variable {s : CaseSnapshot} {c : CaseRecord}

/-- Where data was `null` and nothing has been written, `null` remains. -/
theorem get?_toData_of_toRecord (h : s.toRecord = .ok c) {f : RecordField CaseRecord}
    (hf : f ∈ CaseRecord.fields) (hk : f.name ∉ CaseRecord.envelopeKeys) :
    c.toData.get? f.name = (f.write c).or (Rewriting.remains (s.data.get? f.name)) := by
  have hrest : c.rest.get? f.name = none := (apart_of_toRecord h).rest f hf
  have hcleared : f.name ∈ c.cleared ↔ s.data.get? f.name = some .null := by
    rw [mem_cleared_iff h, get?_recordObject hk]
    exact and_iff_left hrest
  have hremains : (if f.name ∈ c.cleared then some .null else none) =
      Rewriting.remains (s.data.get? f.name) := by
    simp only [Rewriting.remains, hcleared]
  rw [CaseRecord.get?_toData, if_neg hk, CaseRecord.get?_object hf, hrest, Option.none_or, hremains]

theorem written_optional {α : Type} {name : String} {get : CaseRecord → Option α}
    {codec : Codec Json α} (h : s.toRecord = .ok c)
    (hf : RecordField.optional name get codec ∈ CaseRecord.fields)
    (hk : name ∉ CaseRecord.envelopeKeys) :
    (Rewriting.optional name codec).written (s.data.get? name) = .ok (c.toData.get? name) := by
  have hwritten := Rewriting.written_of_reads_optional (reads_of_toRecord h hf)
  have hget := get?_toData_of_toRecord h hf hk
  rw [get?_recordObject hk] at hwritten
  rw [RecordField.name_optional] at hget
  rw [hget]
  exact hwritten

theorem written_collection {α : Type} {name : String} {get : CaseRecord → List α}
    {codec : Codec Json α} (h : s.toRecord = .ok c)
    (hf : RecordField.collection name get codec ∈ CaseRecord.fields)
    (hk : name ∉ CaseRecord.envelopeKeys) :
    (Rewriting.collection name codec).written (s.data.get? name) = .ok (c.toData.get? name) := by
  have hwritten := Rewriting.written_of_reads_collection (reads_of_toRecord h hf)
  have hget := get?_toData_of_toRecord h hf hk
  rw [get?_recordObject hk] at hwritten
  rw [RecordField.name_collection] at hget
  rw [hget]
  exact hwritten

/-- Every typed field of data that can be read is rewritten on its own. -/
theorem written_of_toRecord (h : s.toRecord = .ok c) : ∀ r ∈ CaseRecord.rewritings,
    r.written (s.data.get? r.name) = .ok (c.toData.get? r.name) := by
  simp only [CaseRecord.rewritings, List.forall_mem_cons]
  exact ⟨written_optional h (List.mem_of_getElem? (i := 2) rfl) (by decide),
    written_optional h (List.mem_of_getElem? (i := 3) rfl) (by decide),
    written_optional h (List.mem_of_getElem? (i := 4) rfl) (by decide),
    written_collection h (List.mem_of_getElem? (i := 5) rfl) (by decide),
    written_optional h (List.mem_of_getElem? (i := 6) rfl) (by decide),
    written_optional h (List.mem_of_getElem? (i := 7) rfl) (by decide),
    written_optional h (List.mem_of_getElem? (i := 8) rfl) (by decide),
    written_collection h (List.mem_of_getElem? (i := 9) rfl) (by decide),
    written_collection h (List.mem_of_getElem? (i := 10) rfl) (by decide), by simp⟩

/-- What the envelope decides can be read. -/
theorem suits_reference (s : CaseSnapshot) :
    (Layout.optional "ccdCaseReference" CaseRecord.reference CaseReference.codec).Suits
      s.recordObject.get? (some s.id) := by
  refine Layout.suits_optional (.inr ⟨_, s.get?_recordObject_reference, ?_⟩)
  have hback : (CaseReference.codec : Codec Json CaseReference).decode (.ofInt s.id.number) =
      .ok s.id := (CaseReference.roundTrips s.id).2
  rw [readOption_json (by simp [Json.ofInt]), hback]
  rfl

theorem suits_state (s : CaseSnapshot) :
    (Layout.optional "ccdState" CaseRecord.state .string).Suits s.recordObject.get? s.state := by
  have hkey := s.get?_recordObject_state
  cases hstate : s.state with
  | none => exact Layout.suits_optional (.inl ⟨by rw [hkey, hstate]; rfl, rfl⟩)
  | some state => exact Layout.suits_optional (.inr ⟨_, by rw [hkey, hstate]; rfl, rfl⟩)

/-- Data can be read if each typed field can be rewritten. -/
theorem exists_toRecord (h : ∀ r ∈ CaseRecord.rewritings, ∃ w,
    r.written (s.data.get? r.name) = .ok w) : ∃ c, s.toRecord = .ok c := by
  have hsame : ∀ r ∈ CaseRecord.rewritings, s.recordObject.get? r.name = s.data.get? r.name := by
    have hnames : ∀ k ∈ CaseRecord.rewritings.map (·.name), k ∉ CaseRecord.envelopeKeys := by
      decide
    exact fun r hr => get?_recordObject (hnames _ (List.mem_map_of_mem hr))
  have hwritten : ∀ r ∈ CaseRecord.rewritings, ∃ w,
      r.written (s.recordObject.get? r.name) = .ok w := by
    intro r hr
    rw [hsame r hr]
    exact h r hr
  simp only [CaseRecord.rewritings, List.forall_mem_cons] at hwritten
  obtain ⟨hlink, huncloaked, hnotice, hsolicitors, hdecision, horder, hrequest, happlications,
    hview, _⟩ := hwritten
  have hsuitable : (CaseRecord.layout : Layout Json CaseRecord (Object → CaseRecord)).Suitable
      s.recordObject.get? :=
    .seq (.seq (.seq (.seq (.seq (.seq (.seq (.seq (.seq (.seq (.map
      ⟨_, s.suits_reference⟩ _)
      ⟨_, s.suits_state⟩)
      (Rewriting.suitable_optional hlink))
      (Rewriting.suitable_optional huncloaked))
      (Rewriting.suitable_optional hnotice))
      (Rewriting.suitable_collection hsolicitors))
      (Rewriting.suitable_optional hdecision))
      (Rewriting.suitable_optional horder))
      (Rewriting.suitable_optional hrequest))
      (Rewriting.suitable_collection happlications))
      (Rewriting.suitable_collection hview)
  obtain ⟨build, hbuild⟩ := hsuitable
  have hdecode : (CaseRecord.codec : Codec Json CaseRecord).decode s.recordObject.toJson = _ :=
    decode_openRecord_of_suits hbuild (.of_nil rfl _)
  exact ⟨_, toRecord_eq_ok_iff.2 ⟨_, hdecode, rfl⟩⟩

/-- Data can be read exactly if each typed field can be rewritten. -/
theorem exists_toRecord_iff : (∃ c, s.toRecord = .ok c) ↔
    ∀ r ∈ CaseRecord.rewritings, ∃ w, r.written (s.data.get? r.name) = .ok w := by
  constructor
  · rintro ⟨c, h⟩ r hr
    exact ⟨_, written_of_toRecord h r hr⟩
  · exact exists_toRecord

/-- Data that cannot be read is a bad request. -/
theorem of_toRecord_error {failure : Failure} (h : s.toRecord = .error failure) :
    failure.kind = .badRequest ∧ ∃ cause, failure.cause = some cause := by
  rw [toRecord] at h
  cases hdec : (CaseRecord.codec : Codec Json CaseRecord).decode s.recordObject.toJson with
  | error r =>
    rw [hdec] at h
    obtain rfl : Failure.shape r.message = failure := Except.error.inj h
    exact ⟨rfl, _, rfl⟩
  | ok r =>
    rw [hdec] at h
    cases h

/-- The data has unknown members as they were. -/
theorem get?_toData_of_unknown (h : s.toRecord = .ok c) {k : String}
    (hk : k ∉ CaseRecord.typedNames) : c.toData.get? k = s.data.get? k := by
  have henvelope : k ∉ CaseRecord.envelopeKeys := fun he => hk (List.mem_append_left _ he)
  have hcleared : k ∉ c.cleared := fun hc => hk ((suits_of_toRecord h).cleared_typed k hc).1
  rw [CaseRecord.get?_toData, if_neg henvelope, if_neg hcleared, Option.or_none,
    CaseRecord.get?_object_of_not_mem hk, get?_rest_of_toRecord h hk]

/-- In a record that was read, what is noted as cleared has no value. -/
theorem uncovered_of_toRecord (h : s.toRecord = .ok c) : c.uncovered = c.cleared := by
  refine List.filter_eq_self.2 fun k hk => ?_
  obtain ⟨htyped, henvelope⟩ := (suits_of_toRecord h).cleared_typed k hk
  obtain ⟨r, hr, rfl⟩ := List.mem_map.1 ((List.mem_append.1 htyped).resolve_left henvelope)
  have hnull : s.data.get? r.name = some .null := by
    rw [← get?_recordObject henvelope]
    exact ((mem_cleared_iff h).1 hk).1
  have hwritten := written_of_toRecord h r hr
  rw [hnull] at hwritten
  have hdata : some .null = c.toData.get? r.name := Except.ok.inj hwritten
  rw [CaseRecord.get?_toData, if_neg henvelope] at hdata
  cases hobject : c.object.get? r.name with
  | none => simp [Object.contains, hobject]
  | some t =>
    rw [hobject, Option.some_or] at hdata
    exact absurd (hobject.trans hdata.symm)
      (CaseRecord.get?_object_ne_null (apart_of_toRecord h) htyped)

end

/-- What comes of reading data and writing it again. Whether it can be read depends on what stands
under the names of the typed fields that the envelope leaves alone, and data that cannot be read is
a bad request with a cause. Data that is written again

* has nothing under the keys of the envelope,
* agrees with the data that was read on every unknown member,
* has each typed field rewritten: missing and `null` stay, an empty collection is left out, and
  every other value is encoded as it was understood,
* is read as the same record, cleared fields included. -/
theorem rewriting_law (s : CaseSnapshot) :
    (∀ s' : CaseSnapshot,
      (∀ r ∈ CaseRecord.rewritings, s'.data.get? r.name = s.data.get? r.name) →
        ((∃ c, s'.toRecord = .ok c) ↔ ∃ c, s.toRecord = .ok c)) ∧
    (∀ failure, s.toRecord = .error failure →
      failure.kind = .badRequest ∧ ∃ cause, failure.cause = some cause) ∧
    ∀ c, s.toRecord = .ok c →
      (∀ k ∈ CaseRecord.envelopeKeys, c.toData.get? k = none) ∧
      (∀ k, k ∉ CaseRecord.typedNames → c.toData.get? k = s.data.get? k) ∧
      (∀ r ∈ CaseRecord.rewritings,
        r.written (s.data.get? r.name) = .ok (c.toData.get? r.name)) ∧
      toRecord { s with data := c.toData } = .ok c := by
  refine ⟨fun s' hsame => ?_, fun failure h => of_toRecord_error h, fun c h => ?_⟩
  · rw [exists_toRecord_iff, exists_toRecord_iff]
    refine forall₂_congr fun r hr => ?_
    rw [hsame r hr]
  · have hfixed : toRecord { s with data := c.toData } = .ok c := by
      rw [(suits_of_toRecord h).toRecord_toData, uncovered_of_toRecord h]
    refine ⟨fun k hk => ?_, fun k hk => get?_toData_of_unknown h hk, written_of_toRecord h, hfixed⟩
    rw [CaseRecord.get?_toData, if_pos hk]

/-- An application of which an answer was cleared, without solicitors, and with a list in place of an
object for what the other party is told. -/
def drafted : CaseSnapshot where
  id := ⟨2222333344445555, by decide, by decide⟩
  jurisdiction := none
  caseType := none
  state := none
  data := .ofMembers
    [("applicationIsUncloakedOnce", .null), ("ccdState", .string "STALE"),
     ("generalAppInformOtherParty", .array [.string "No", .string "Urgent"]),
     ("generalAppRespondentSolicitors", .array []), ("hearingNotes", .null)]

/-- Written again, it keeps both `null`s and has the notice as an object. -/
theorem rewriting_law_drafted : ∃ c, drafted.toRecord = .ok c ∧
    c.toData.entries =
      [("applicationIsUncloakedOnce", .null),
       ("generalAppInformOtherParty", .object
         [("isWithNotice", .string "No"), ("reasonForWithoutNotice", .string "Urgent")]),
       ("hearingNotes", .null)] ∧
    toRecord { drafted with data := c.toData } = .ok c :=
  ⟨_, rfl, rfl, ((rewriting_law drafted).2.2 _ rfl).2.2.2⟩

end CaseSnapshot

end GeneralApplications

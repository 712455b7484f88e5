import GeneralApplications.Proofs.Case.Rewriting
import GeneralApplications.Proofs.Json.Visiting

/-!
# The deadline that was not chosen

An order for written representations is written with a key for each manner's deadline, and read
with a place for each. Only after both are read is the manner looked at. So the deadline that was
not chosen leaves no trace in the order, but a value in its place that is no date is a fault of the
order (`WrittenRepresentations.decode_put`). Two values there make no difference exactly if the same
is wrong with both (`decode_put_eq_iff`), with one exception that comes from the order of the keys:
the deadline of a concurrent order is read before the other one, and its own fault hides what
follows.

Outcomes are compared with the place of a fault, not by its wording alone. A sequential order whose
own deadline has the same fault as the other value fails with the same words whether or not that
value is there, but not at the same place, and so not alike.

In the case data an order is one member among others. Two orders that are decoded alike make the
same record of the case (`CaseSnapshot.toRecord_withOrder`), and an order that is none makes no
record (`toRecord_withOrder_error`).
-/

namespace GeneralApplications

open Json

/-- The manner that was not chosen. -/
def Manner.other : Manner → Manner
  | .sequential => .concurrent
  | .concurrent => .sequential

/-- The object with a value under a key, or with none. -/
def Json.Object.put (o : Object) (k : String) (v : Option Json) : Object :=
  match v with
  | some t => o.insert k t
  | none => o.erase k

theorem Json.Object.get?_put (o : Object) (k k' : String) (v : Option Json) :
    (o.put k v).get? k' = if k = k' then v else o.get? k' := by
  cases v with
  | some t => exact get?_insert o k k' t
  | none => exact get?_erase o k k'

namespace WrittenRepresentations

/-- What is wrong with a value in the place of a date. Nothing is, if it is missing or `null`. -/
def dateFault? (v : Option Json) : Option Rejection :=
  match v with
  | none => none
  | some t =>
    match readOption (Date.codec : Codec Json Date).decode t with
    | .ok _ => none
    | .error fault => some fault

/-- What is read of the deadline of a manner. -/
def readDeadline (manner : Manner) (v : Option Json) : Except Rejection (Option Date) :=
  match v with
  | none => .ok none
  | some t =>
    within (.key (deadlineKey manner)) (readOption (Date.codec : Codec Json Date).decode t)

theorem readDeadline_cases (manner : Manner) (v : Option Json) :
    (dateFault? v = none ∧ ∃ d, readDeadline manner v = .ok d) ∨
      ∃ fault, dateFault? v = some fault ∧
        readDeadline manner v =
          .error { fault with path := .key (deadlineKey manner) :: fault.path } := by
  unfold dateFault? readDeadline
  cases v with
  | none => exact .inl ⟨rfl, none, rfl⟩
  | some t =>
    cases hread : readOption (Date.codec : Codec Json Date).decode t with
    | ok d => exact .inl ⟨by simp only [hread], d, by simp only [hread]; rfl⟩
    | error fault => exact .inr ⟨fault, by simp only [hread], by simp only [hread]; rfl⟩

/-- The layout of an order. -/
def layout : Layout Json WrittenRepresentations WrittenRepresentations :=
  select
    <$> Layout.required "writtenOption" (·.manner) Manner.codec
    <*> Layout.optional (deadlineKey .sequential) (deadlineIf .sequential) Date.codec
    <*> Layout.optional (deadlineKey .concurrent) (deadlineIf .concurrent) Date.codec

theorem codec_eq_record :
    (codec : Codec Json WrittenRepresentations) = .record "WrittenRepresentationsFields" layout :=
  rfl

theorem read_deadlineField (manner : Manner) (o : Object) :
    (Layout.optional (deadlineKey manner) (deadlineIf manner) (Date.codec : Codec Json Date)).read
      (.ofMembers o.entries) = readDeadline manner (o.get? (deadlineKey manner)) := by
  simp only [Layout.optional, Layout.place, RecordField.find_place]
  show _ = readDeadline manner (Object.lookup (deadlineKey manner) o.entries)
  cases Object.lookup (deadlineKey manner) o.entries <;> rfl

theorem checkAt_deadlineKey (manner : Manner) (o : Object) :
    checkAt layout.places o (deadlineKey manner) =
      discard (readDeadline manner (o.get? (deadlineKey manner))) := by
  have hplace : placeOf? layout.places (deadlineKey manner) =
      some (deadlineField manner).place := by cases manner <;> rfl
  unfold checkAt
  cases o.get? (deadlineKey manner) with
  | none => rfl
  | some t =>
    show checkMember _ _ = discard (within _ _)
    unfold checkMember
    simp only [hplace]
    show within _ (discard (readOption _ t)) = _
    cases readOption (Date.codec : Codec Json Date).decode t <;> rfl

theorem placeOf?_layout_eq_none {k : String}
    (hk : k ∉ ["writtenOption", deadlineKey .sequential, deadlineKey .concurrent]) :
    placeOf? (layout : Layout Json _ _).places k = none := by
  by_contra hplace
  obtain ⟨p, hp⟩ := Option.ne_none_iff_exists'.1 hplace
  have hname : p.name = k := name_of_placeOf? rfl hp
  refine hk ?_
  show k ∈ (layout : Layout Json _ _).places.map (·.name)
  rw [← hname]
  exact List.mem_map_of_mem (List.mem_of_find?_eq_some hp)

section
variable {o : Object} {w : Json} {manner : Manner} (hw : o.get? "writtenOption" = some w)
  (hmanner : (Manner.codec : Codec Json Manner).decode w = .ok manner)
include hw hmanner

/-- The members of an order are checked in the order of their keys. -/
theorem visit_layout :
    visit layout.places (fun t : Json => lift (Readable.skim t)) [] o.entries = (do
      discard (readDeadline .concurrent (o.get? (deadlineKey .concurrent)))
      discard (readDeadline .sequential (o.get? (deadlineKey .sequential)))) := by
  have hknown : ∀ k ∉ [deadlineKey .concurrent, "writtenOption", deadlineKey .sequential],
      placeOf? (layout : Layout Json _ _).places k = none := by
    intro k hk
    refine placeOf?_layout_eq_none fun hmem => hk ?_
    simp only [List.mem_cons] at hmem ⊢
    tauto
  have hskim : ∀ t : Json, lift (Readable.skim t) = .ok () := fun _ => rfl
  have hoption : checkAt layout.places o "writtenOption" = .ok () := by
    unfold checkAt
    rw [hw]
    show within _ (discard ((Manner.codec : Codec Json Manner).decode w)) = _
    rw [hmanner]
    rfl
  rw [visit_known rfl hskim (by decide) hknown]
  show (do
    checkAt layout.places o (deadlineKey .concurrent)
    checkAt layout.places o "writtenOption"
    checkAt layout.places o (deadlineKey .sequential)
    pure PUnit.unit) = _
  rw [checkAt_deadlineKey, checkAt_deadlineKey, hoption]
  cases readDeadline .concurrent (o.get? (deadlineKey .concurrent)) with
  | error fault => rfl
  | ok _ => cases readDeadline .sequential (o.get? (deadlineKey .sequential)) <;> rfl

/-- The fields of an order are read in the order of its layout. -/
theorem read_layout : layout.read (.ofMembers o.entries) = do
    let sequential ← readDeadline .sequential (o.get? (deadlineKey .sequential))
    let concurrent ← readDeadline .concurrent (o.get? (deadlineKey .concurrent))
    return select manner sequential concurrent := by
  have hoption : (Layout.required "writtenOption" (·.manner) Manner.codec :
      Layout Json WrittenRepresentations Manner).read (.ofMembers o.entries) = .ok manner := by
    have hlookup : Object.lookup "writtenOption" o.entries = some w := hw
    simp only [Layout.required, Layout.place, RecordField.find_place, hlookup]
    show within _ ((Manner.codec : Codec Json Manner).decode w) = _
    rw [hmanner]
    rfl
  unfold layout
  rw [Layout.read_seq, Layout.read_seq, Layout.read_map, hoption, read_deadlineField,
    read_deadlineField]
  cases readDeadline .sequential (o.get? (deadlineKey .sequential)) <;> rfl

/-- An order with a manner: the two deadlines are read in the order of their keys, and then the one
of the manner is taken. -/
theorem decode_toJson :
    (codec : Codec Json WrittenRepresentations).decode o.toJson = do
      let concurrent ← readDeadline .concurrent (o.get? (deadlineKey .concurrent))
      let sequential ← readDeadline .sequential (o.get? (deadlineKey .sequential))
      return select manner sequential concurrent := by
  rw [codec_eq_record]
  show layout.readMembers (fun t : Json => lift (Readable.skim t)) ⟨o.entries, none⟩ = _
  unfold Layout.readMembers
  dsimp only
  -- a fault is reported by the visit, so the fields find none
  rw [visit_layout hw hmanner, read_layout hw hmanner]
  cases readDeadline .concurrent (o.get? (deadlineKey .concurrent)) with
  | error fault => rfl
  | ok _ => cases readDeadline .sequential (o.get? (deadlineKey .sequential)) <;> rfl

/-- An order with a value in the place of the deadline that was not chosen: the value is checked,
and then it is dropped. Which of the two deadlines is checked first is a matter of their keys. -/
theorem decode_put (v : Option Json) :
    (codec : Codec Json WrittenRepresentations).decode
        (o.put (deadlineKey manner.other) v).toJson =
      match manner with
      | .sequential => do
        let _ ← readDeadline .concurrent v
        let deadline ← readDeadline .sequential (o.get? (deadlineKey .sequential))
        return ⟨.sequential, deadline⟩
      | .concurrent => do
        let deadline ← readDeadline .concurrent (o.get? (deadlineKey .concurrent))
        let _ ← readDeadline .sequential v
        return ⟨.concurrent, deadline⟩ := by
  have hoption : (o.put (deadlineKey manner.other) v).get? "writtenOption" = some w := by
    rw [Object.get?_put, if_neg (by cases manner <;> decide), hw]
  rw [decode_toJson hoption hmanner, Object.get?_put, Object.get?_put]
  cases manner <;> rfl

end

/-- What follows a check tells two checked values apart only if something else is wrong with them,
as long as it finds its own faults elsewhere. -/
theorem readDeadline_bind_eq_iff {α : Type} {manner : Manner} {rest : Except Rejection α}
    (hrest : ∀ fault path, rest = .error fault → fault.path ≠ .key (deadlineKey manner) :: path)
    (v v' : Option Json) :
    (readDeadline manner v >>= fun _ => rest) = (readDeadline manner v' >>= fun _ => rest) ↔
      dateFault? v = dateFault? v' := by
  rcases readDeadline_cases manner v with ⟨hnone, d, hd⟩ | ⟨fault, hsome, hfault⟩ <;>
    rcases readDeadline_cases manner v' with ⟨hnone', d', hd'⟩ | ⟨fault', hsome', hfault'⟩
  · rw [hd, hd', hnone, hnone']
    exact iff_of_true rfl rfl
  · rw [hd, hfault', hnone, hsome']
    exact iff_of_false (fun h => hrest _ _ h rfl) nofun
  · rw [hfault, hd', hsome, hnone']
    exact iff_of_false (fun h => hrest _ _ h.symm rfl) nofun
  · rw [hfault, hfault', hsome, hsome']
    obtain ⟨path, reason⟩ := fault
    obtain ⟨path', reason'⟩ := fault'
    simp [bind, Except.bind]

/-- Two values in the place of the deadline that was not chosen give the same outcome, the place of a
fault included, if the same is wrong with both. There is one more case: if the deadline that was
chosen is read first and is itself no date, the order fails for it whatever the other is. -/
theorem decode_put_eq_iff {o : Object} {w : Json} {manner : Manner}
    (hw : o.get? "writtenOption" = some w)
    (hmanner : (Manner.codec : Codec Json Manner).decode w = .ok manner) (v v' : Option Json) :
    (codec : Codec Json WrittenRepresentations).decode
          (o.put (deadlineKey manner.other) v).toJson =
        (codec : Codec Json WrittenRepresentations).decode
          (o.put (deadlineKey manner.other) v').toJson ↔
      dateFault? v = dateFault? v' ∨
        (manner = .concurrent ∧ dateFault? (o.get? (deadlineKey manner)) ≠ none) := by
  rw [decode_put hw hmanner, decode_put hw hmanner]
  cases manner with
  | sequential =>
    rw [or_iff_left (fun h => nomatch h.1)]
    refine readDeadline_bind_eq_iff (fun fault path hfault => ?_) v v'
    rcases readDeadline_cases .sequential (o.get? (deadlineKey .sequential)) with
      ⟨-, d, hd⟩ | ⟨own, -, hown⟩
    · rw [hd] at hfault
      cases hfault
    · rw [hown] at hfault
      cases hfault
      simp [deadlineKey]
  | concurrent =>
    rcases readDeadline_cases .concurrent (o.get? (deadlineKey .concurrent)) with
      ⟨hnone, d, hd⟩ | ⟨own, hsome, hown⟩
    · rw [hd, or_iff_left (fun h => h.2 hnone)]
      exact readDeadline_bind_eq_iff (fun _ _ h => by cases h) v v'
    · rw [hown]
      exact iff_of_true rfl (.inr ⟨rfl, by simp [hsome]⟩)

end WrittenRepresentations

/-! ## Orders in case data -/

namespace CaseRecord

/-- The key of the order for written representations in case data. -/
def orderKey : String :=
  "judicialDecisionMakeOrderForWrittenRepresentations"

/-- A record reads members alike that differ in their order only, if the two orders are decoded
alike. -/
theorem readsAlike_layout {a b : List (String × Json)} {t u : Json}
    (hsame : ∀ k ≠ orderKey, Object.lookup k a = Object.lookup k b)
    (ht : Object.lookup orderKey a = some t) (hu : Object.lookup orderKey b = some u)
    (h : readOption (WrittenRepresentations.codec : Codec Json WrittenRepresentations).decode t =
      readOption (WrittenRepresentations.codec : Codec Json WrittenRepresentations).decode u) :
    layout.ReadsAlike a b := by
  exact .seq (.seq (.seq (.seq (.seq (.seq (.seq (.seq (.seq (.seq
    (.map (.optional (hsame _ (by decide))) _)
    (.optional (hsame _ (by decide))))
    (.optional (hsame _ (by decide))))
    (.optional (hsame _ (by decide))))
    (.optional (hsame _ (by decide))))
    (.collection (hsame _ (by decide))))
    (.optional (hsame _ (by decide))))
    (.optional_of_decode ht hu h))
    (.optional (hsame _ (by decide))))
    (.collection (hsame _ (by decide))))
    (.collection (hsame _ (by decide)))

end CaseRecord

namespace CaseSnapshot

/-- The snapshot with an order for written representations in its data. -/
def withOrder (s : CaseSnapshot) (t : Json) : CaseSnapshot :=
  { s with data := s.data.insert CaseRecord.orderKey t }

variable {s : CaseSnapshot} {t u : Json}

theorem recordObject_withOrder (s : CaseSnapshot) (t u : Json) :
    (s.withOrder t).recordObject = (s.withOrder u).recordObject.insert CaseRecord.orderKey t := by
  refine Object.ext_get? fun k => ?_
  rw [Object.get?_insert]
  by_cases hk : k ∈ CaseRecord.envelopeKeys
  · have hne : CaseRecord.orderKey ≠ k := by
      rintro rfl
      exact absurd hk (by decide)
    rw [if_neg hne]
    simp only [CaseRecord.envelopeKeys, List.mem_cons, List.not_mem_nil, or_false] at hk
    rcases hk with rfl | rfl
    · rw [get?_recordObject_reference, get?_recordObject_reference]
      rfl
    · rw [get?_recordObject_state, get?_recordObject_state]
      rfl
  · rw [get?_recordObject hk, get?_recordObject hk]
    show (s.data.insert _ t).get? k = if _ then _ else (s.data.insert _ u).get? k
    rw [Object.get?_insert, Object.get?_insert]
    split <;> rfl

theorem get?_recordObject_withOrder (s : CaseSnapshot) (t : Json) :
    (s.withOrder t).recordObject.get? CaseRecord.orderKey = some t := by
  rw [get?_recordObject (by decide)]
  exact Object.get?_insert_self ..

/-- A value that is not `null` for another one changes nothing about which keys have `null`. -/
theorem nullKeys_insert {o : Object} {k : String} (hu : o.get? k = some u) (hne : u ≠ .null)
    (ht : t ≠ .null) : nullKeys (o.insert k t) = nullKeys o := by
  refine CaseRecord.eq_of_sorted (sorted_nullKeys _) (sorted_nullKeys _) fun k' => ?_
  rw [mem_nullKeys_iff, mem_nullKeys_iff, Object.get?_insert]
  split
  next hk =>
    subst hk
    rw [hu]
    simp [ht, hne]
  next => rfl

/-- Two orders that are decoded alike make the same record, or the same failure. -/
theorem toRecord_withOrder (ht : t ≠ .null) (hu : u ≠ .null)
    (h : (WrittenRepresentations.codec : Codec Json WrittenRepresentations).decode t =
      (WrittenRepresentations.codec : Codec Json WrittenRepresentations).decode u) :
    (s.withOrder t).toRecord = (s.withOrder u).toRecord := by
  have hget := get?_recordObject_withOrder s u
  have hdecode : (CaseRecord.codec : Codec Json CaseRecord).decode
      (s.withOrder t).recordObject.toJson =
        (CaseRecord.codec : Codec Json CaseRecord).decode (s.withOrder u).recordObject.toJson := by
    have hread : readOption WrittenRepresentations.codec.decode t =
        readOption WrittenRepresentations.codec.decode u := by
      rw [readOption_json ht, readOption_json hu, h]
    have hplace : placeOf? (CaseRecord.layout (τ := Json)).places CaseRecord.orderKey =
        some (Layout.place CaseRecord.orderKey []
          (readOption (WrittenRepresentations.codec : Codec Json WrittenRepresentations).decode)) :=
      rfl
    rw [recordObject_withOrder s t u]
    refine Codec.decode_openRecord_insert rfl hget hplace (congrArg discard hread) ?_
    refine CaseRecord.readsAlike_layout (fun k hk => ?_) (Object.get?_insert_self ..) hget hread
    exact (Object.get?_insert ..).trans (if_neg hk.symm)
  have hnull : nullKeys (s.withOrder t).recordObject = nullKeys (s.withOrder u).recordObject := by
    rw [recordObject_withOrder s t u, nullKeys_insert hget hu ht]
  unfold toRecord
  dsimp only
  rw [hdecode, hnull]

/-- An order that is none makes no record. -/
theorem toRecord_withOrder_error {fault : Rejection} (ht : t ≠ .null)
    (h : (WrittenRepresentations.codec : Codec Json WrittenRepresentations).decode t =
      .error fault) : ∃ failure, (s.withOrder t).toRecord = .error failure := by
  cases hrecord : (s.withOrder t).toRecord with
  | error failure => exact ⟨failure, rfl⟩
  | ok c =>
    have hfield : RecordField.optional CaseRecord.orderKey (·.writtenRepresentations)
        WrittenRepresentations.codec ∈ CaseRecord.fields := by
      simp [CaseRecord.fields, CaseRecord.orderKey]
    have hlookup : Object.lookup CaseRecord.orderKey (s.withOrder t).recordObject.entries =
        some t := get?_recordObject_withOrder s t
    rcases RecordField.reads_optional_iff.1 (reads_of_toRecord hrecord hfield) with
      ⟨hnone, -⟩ | ⟨u, hu, hread⟩
    · cases hnone.symm.trans hlookup
    · obtain rfl : u = t := Option.some.inj (hu.symm.trans hlookup)
      rw [readOption_json ht, h] at hread
      cases hread

end CaseSnapshot

end GeneralApplications

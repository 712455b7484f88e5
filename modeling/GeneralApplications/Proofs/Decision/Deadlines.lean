import GeneralApplications.Decision.Deadlines
import GeneralApplications.Proofs.Case.Conversion
import GeneralApplications.Proofs.Json.Parts

/-!
# Findings on deadlines

A decision stands in case data next to the blocks of other decisions, and the block of a decision
may hold dates that it does not use. What the case data says about the deadline is read off in
`CaseSnapshot.decision?`, `orderDate?` and the like, each of which looks at one field of one block.
A record decodes all of them, and its decision, its order and its request hold what these fields say
(`decision?_eq_iff`, `order_eq_iff`, `request_eq_iff`). So the findings for a record are those that
the case data calls for (`CaseSnapshot.CallsFor`), and there is one at most. With time only findings
are added.
-/

namespace GeneralApplications

open Json

/-- The date that a value is, if it is one. -/
def Json.date? : Json → Option Date
  | .string s => (Date.ofText s).toOption
  | _ => none

theorem Date.date?_of_readOption {t : Json} {d : Option Date}
    (h : readOption (Date.codec : Codec Json Date).decode t = .ok d) : t.date? = d := by
  cases t with
  | null => exact Except.ok.inj h
  | string s =>
    obtain ⟨date, hdate, rfl⟩ := map_eq_ok_iff.1 h
    have htext : Date.ofText s = .ok date := mapError_eq_ok_iff.1 hdate
    simp [Json.date?, htext, Except.toOption]
  | bool b => cases h
  | number n => cases h
  | array items => cases h
  | object members => cases h

/-- A date that may be missing is the date at its part of the record. -/
theorem Date.bind_date?_eq {part : Option Json} {d : Option Date}
    (h : (part = none ∧ d = none) ∨
      ∃ t, part = some t ∧ readOption (Date.codec : Codec Json Date).decode t = .ok d) :
    part.bind Json.date? = d := by
  rcases h with ⟨rfl, rfl⟩ | ⟨t, rfl, hread⟩
  · rfl
  · exact date?_of_readOption hread

/-! ## Decoded decisions -/

/-- The position of the deadline of a manner in an order that is given as a list. -/
def WrittenRepresentations.deadlinePosition : Manner → Nat
  | .sequential => 1
  | .concurrent => 2

theorem Ruling.name_inj {a b : Ruling} : a.name = b.name ↔ a = b := by
  cases a <;> cases b <;> decide

theorem Manner.name_inj {a b : Manner} : a.name = b.name ↔ a = b := by
  cases a <;> cases b <;> decide

theorem InformationRequest.Action.name_inj {a b : InformationRequest.Action} :
    a.name = b.name ↔ a = b := by
  cases a <;> cases b <;> decide

theorem JudicialDecision.ruling_of_decode {j : Json} {d : JudicialDecision}
    (h : JudicialDecision.codec.decode j = .ok d) :
    (j.field? "decision" 0).bind label? = some d.ruling.name := by
  have hfield : RecordField.required "decision" (·.ruling) Ruling.codec ∈ fields := by
    simp [fields]
  exact isRecord.label?_of_required hfield h

namespace WrittenRepresentations

variable {j : Json} {d : WrittenRepresentations} (h : codec.decode j = .ok d)
include h

theorem manner_of_decode : (j.field? "writtenOption" 0).bind label? = some d.manner.name := by
  have hfield : RecordField.required "writtenOption" (·.manner) Manner.codec ∈ fields := by
    simp [fields]
  exact isRecord.label?_of_required hfield h

/-- The deadline of an order is the date in the place of its manner, whatever the other one is. -/
theorem deadline_of_decode :
    (j.field? (deadlineKey d.manner) (deadlinePosition d.manner)).bind date? = d.deadline := by
  have hfield : deadlineField d.manner ∈ fields := by cases d.manner <;> simp [fields]
  have hposition : fields.findIdx (·.name = deadlineKey d.manner) = deadlinePosition d.manner := by
    cases d.manner <;> rfl
  obtain ⟨fs, hreads, hfinds⟩ := isRecord.exists_findings h
  obtain ⟨date, hread, hdate⟩ := hreads _ hfield
  have hpart := Layout.part_of_read_optional (hfinds (deadlineKey d.manner)) hread
  rw [hposition] at hpart
  rw [Date.bind_date?_eq hpart, hdate rfl]

end WrittenRepresentations

namespace InformationRequest

variable {j : Json} {r : InformationRequest} (h : codec.decode j = .ok r)
include h

theorem action_of_decode :
    (j.field? "requestMoreInfoOption" 0).bind label? = some r.action.name := by
  have hfield : RecordField.required "requestMoreInfoOption" (·.action) Action.codec ∈ fields := by
    simp [fields]
  exact isRecord.label?_of_required hfield h

theorem deadline_of_decode :
    (j.field? "judgeRequestMoreInfoByDate" 2).bind date? = r.deadline := by
  have hfield : RecordField.optional "judgeRequestMoreInfoByDate" (·.deadline) Date.codec ∈
      fields := by simp [fields]
  exact Date.bind_date?_eq (isRecord.part_of_optional hfield h)

end InformationRequest

/-! ## What the case data says about the decision -/

namespace CaseSnapshot

open WrittenRepresentations (deadlineKey deadlinePosition)

/-- A field of a record in the case data. -/
def part? (s : CaseSnapshot) (key name : String) (position : Nat) : Option Json :=
  (s.data.get? key).bind (·.field? name position)

/-- The name of the decision. -/
def decision? (s : CaseSnapshot) : Option String :=
  (s.part? "judicialDecision" "decision" 0).bind label?

/-- The name of the option that an order for written representations selects. -/
def orderOption? (s : CaseSnapshot) : Option String :=
  (s.part? "judicialDecisionMakeOrderForWrittenRepresentations" "writtenOption" 0).bind label?

/-- The date that an order for written representations has for a manner. -/
def orderDate? (s : CaseSnapshot) (manner : Manner) : Option Date :=
  (s.part? "judicialDecisionMakeOrderForWrittenRepresentations" (deadlineKey manner)
    (deadlinePosition manner)).bind date?

/-- The name of the option that a request for more information selects. -/
def requestOption? (s : CaseSnapshot) : Option String :=
  (s.part? "judicialDecisionRequestMoreInfo" "requestMoreInfoOption" 0).bind label?

/-- The date that a request for more information has. -/
def requestDate? (s : CaseSnapshot) : Option Date :=
  (s.part? "judicialDecisionRequestMoreInfo" "judgeRequestMoreInfoByDate" 2).bind date?

/-- When the case data calls for a finding. -/
inductive CallsFor (s : CaseSnapshot) (today : Date) : DeadlineFinding → Prop
  | representationsInPast {manner : Manner} {date : Date}
    (decision : s.decision? = some "MAKE_ORDER_FOR_WRITTEN_REPRESENTATIONS")
    (selected : s.orderOption? = some manner.name)
    (deadline : s.orderDate? manner = some date) (past : date < today) :
    CallsFor s today .representationsInPast
  | responseMissing (decision : s.decision? = some "REQUEST_MORE_INFO")
    (selected : s.requestOption? = some "REQUEST_MORE_INFORMATION")
    (deadline : s.requestDate? = none) : CallsFor s today .responseMissing
  | responseInPast {date : Date} (decision : s.decision? = some "REQUEST_MORE_INFO")
    (selected : s.requestOption? = some "REQUEST_MORE_INFORMATION")
    (deadline : s.requestDate? = some date) (past : date < today) :
    CallsFor s today .responseInPast

/-- Two snapshots have the same decision, and what it looks at is the same in both: the option that
is selected for it, and the date of that option. -/
structure AgreeOnDecision (s t : CaseSnapshot) : Prop where
  decision : s.decision? = t.decision?
  orderOption : s.decision? = some "MAKE_ORDER_FOR_WRITTEN_REPRESENTATIONS" →
    s.orderOption? = t.orderOption?
  orderDate : s.decision? = some "MAKE_ORDER_FOR_WRITTEN_REPRESENTATIONS" →
    ∀ manner, s.orderOption? = some manner.name → s.orderDate? manner = t.orderDate? manner
  requestOption : s.decision? = some "REQUEST_MORE_INFO" → s.requestOption? = t.requestOption?
  requestDate : s.decision? = some "REQUEST_MORE_INFO" →
    s.requestOption? = some "REQUEST_MORE_INFORMATION" → s.requestDate? = t.requestDate?

section
variable {s : CaseSnapshot} {c : CaseRecord} (h : s.toRecord = .ok c)
include h

/-- An optional record of the case data is decoded from what stands under its key. -/
theorem optional_of_toRecord {α : Type} {key : String} {get : CaseRecord → Option α}
    {codec : Codec Json α} (hf : RecordField.optional key get codec ∈ CaseRecord.fields)
    (hk : key ∉ CaseRecord.envelopeKeys) :
    (get c = none ∧ ∀ name position, s.part? key name position = none) ∨
      ∃ j a, get c = some a ∧ codec.decode j = .ok a ∧
        ∀ name position, s.part? key name position = j.field? name position := by
  have hget : s.recordObject.get? key = s.data.get? key := get?_recordObject hk
  rcases RecordField.reads_optional_iff.1 (reads_of_toRecord h hf) with ⟨hnone, hc⟩ | ⟨t, ht, hread⟩
  · refine .inl ⟨hc, fun name position => ?_⟩
    rw [part?, ← hget, Object.get?, hnone, Option.bind_none]
  · have hpart : ∀ name position, s.part? key name position = t.field? name position := by
      intro name position
      rw [part?, ← hget, Object.get?, ht, Option.bind_some]
    by_cases hnull : t = .null
    · subst hnull
      exact .inl ⟨(Except.ok.inj hread).symm, hpart⟩
    · rw [readOption_json hnull] at hread
      obtain ⟨a, ha, hc⟩ := map_eq_ok_iff.1 hread
      exact .inr ⟨t, a, hc.symm, ha, hpart⟩

theorem decision?_eq_iff (ruling : Ruling) :
    s.decision? = some ruling.name ↔ c.decision = some ⟨ruling⟩ := by
  have hfield : RecordField.optional "judicialDecision" (·.decision) JudicialDecision.codec ∈
      CaseRecord.fields := by simp [CaseRecord.fields]
  rcases optional_of_toRecord h hfield (by decide) with ⟨hc, hpart⟩ | ⟨j, d, hc, hj, hpart⟩
  · rw [decision?, hpart, hc]
    simp
  · rw [decision?, hpart, hc, JudicialDecision.ruling_of_decode hj]
    obtain ⟨ruling'⟩ := d
    simp [Ruling.name_inj]

theorem order_eq_iff {manner : Manner} {deadline : Option Date} :
    c.writtenRepresentations = some ⟨manner, deadline⟩ ↔
      s.orderOption? = some manner.name ∧ s.orderDate? manner = deadline := by
  have hfield : RecordField.optional "judicialDecisionMakeOrderForWrittenRepresentations"
      (·.writtenRepresentations) WrittenRepresentations.codec ∈ CaseRecord.fields := by
    simp [CaseRecord.fields]
  rcases optional_of_toRecord h hfield (by decide) with ⟨hc, hpart⟩ | ⟨j, d, hc, hj, hpart⟩
  · rw [orderOption?, hpart, hc]
    simp
  · have hdate := WrittenRepresentations.deadline_of_decode hj
    rw [orderOption?, orderDate?, hpart, hpart, hc, WrittenRepresentations.manner_of_decode hj]
    obtain ⟨manner', deadline'⟩ := d
    simp only [Option.some_inj, WrittenRepresentations.mk.injEq, Manner.name_inj]
    exact and_congr_right fun hmanner => by rw [← hmanner, hdate]

theorem request_eq_iff (action : InformationRequest.Action) {deadline : Option Date} :
    (∃ question, c.informationRequest = some ⟨action, question, deadline⟩) ↔
      s.requestOption? = some action.name ∧ s.requestDate? = deadline := by
  have hfield : RecordField.optional "judicialDecisionRequestMoreInfo" (·.informationRequest)
      InformationRequest.codec ∈ CaseRecord.fields := by simp [CaseRecord.fields]
  rcases optional_of_toRecord h hfield (by decide) with ⟨hc, hpart⟩ | ⟨j, r, hc, hj, hpart⟩
  · rw [requestOption?, hpart, hc]
    simp
  · rw [requestOption?, requestDate?, hpart, hpart, hc, InformationRequest.action_of_decode hj,
      InformationRequest.deadline_of_decode hj]
    obtain ⟨action', question', deadline'⟩ := r
    simp [InformationRequest.Action.name_inj]

end

end CaseSnapshot

/-! ## Findings -/

theorem DeadlineFinding.message_inj {a b : DeadlineFinding} : a.message = b.message ↔ a = b := by
  cases a <;> cases b <;> decide

section
variable {today : Date} {f : DeadlineFinding}

theorem WrittenRepresentations.mem_findings_iff {d : WrittenRepresentations} :
    f ∈ d.findings today ↔
      f = .representationsInPast ∧ ∃ date, d.deadline = some date ∧ date < today := by
  unfold findings
  cases d.deadline with
  | none => simp
  | some date => by_cases hpast : date < today <;> simp [hpast]

theorem InformationRequest.mem_findings_iff {r : InformationRequest} :
    f ∈ r.findings today ↔ r.action = .requestMoreInformation ∧
      (f = .responseMissing ∧ r.deadline = none ∨
        f = .responseInPast ∧ ∃ date, r.deadline = some date ∧ date < today) := by
  unfold findings
  cases r.action with
  | sendToOtherParty => simp
  | requestMoreInformation =>
    cases r.deadline with
    | none => simp
    | some date => by_cases hpast : date < today <;> simp [hpast]

namespace CaseRecord

variable {c : CaseRecord}

theorem mem_deadlineFindings_iff : f ∈ c.deadlineFindings today ↔
    (∃ d, c.decision = some ⟨.makeOrderForWrittenRepresentations⟩ ∧
      c.writtenRepresentations = some d ∧ f ∈ d.findings today) ∨
    ∃ r, c.decision = some ⟨.requestMoreInfo⟩ ∧ c.informationRequest = some r ∧
      f ∈ r.findings today := by
  unfold deadlineFindings
  cases c.decision with
  | none => simp
  | some d =>
    obtain ⟨ruling⟩ := d
    cases ruling with
    | makeAnOrder => simp
    | listForAHearing => simp
    | makeOrderForWrittenRepresentations => cases c.writtenRepresentations <;> simp
    | requestMoreInfo => cases c.informationRequest <;> simp

/-- There is one finding at most. -/
theorem length_deadlineFindings_le (c : CaseRecord) (today : Date) :
    (c.deadlineFindings today).length ≤ 1 := by
  have horder (d : WrittenRepresentations) : (d.findings today).length ≤ 1 := by
    unfold WrittenRepresentations.findings
    split
    · split <;> simp
    · simp
  have hrequest (r : InformationRequest) : (r.findings today).length ≤ 1 := by
    unfold InformationRequest.findings
    split
    · simp
    · simp
    · split <;> simp
  unfold deadlineFindings
  split
  · simp
  · split
    · cases c.writtenRepresentations with
      | none => simp
      | some d => exact horder d
    · cases c.informationRequest with
      | none => simp
      | some r => exact hrequest r
    · simp
    · simp

theorem deadlineFindings_eq_singleton_iff :
    c.deadlineFindings today = [f] ↔ f ∈ c.deadlineFindings today := by
  have hlength := c.length_deadlineFindings_le today
  rcases h : c.deadlineFindings today with _ | ⟨g, _ | ⟨g', fs⟩⟩
  · simp
  · simp [eq_comm]
  · simp [h] at hlength

theorem messages_eq_singleton_iff :
    (c.deadlineFindings today).map (·.message) = [f.message] ↔ f ∈ c.deadlineFindings today := by
  have hinjective : Function.Injective DeadlineFinding.message :=
    fun _ _ => DeadlineFinding.message_inj.1
  rw [← deadlineFindings_eq_singleton_iff, ← hinjective.list_map.eq_iff]
  rfl

/-- Records with the same findings have them in the same order, as there is one at most. -/
theorem deadlineFindings_ext {d : CaseRecord}
    (h : ∀ f, f ∈ d.deadlineFindings today ↔ f ∈ c.deadlineFindings today) :
    d.deadlineFindings today = c.deadlineFindings today := by
  cases hc : c.deadlineFindings today with
  | nil => simpa [hc, List.eq_nil_iff_forall_not_mem] using h
  | cons f fs =>
    have hf : f ∈ c.deadlineFindings today := hc ▸ List.mem_cons_self
    rw [← hc, deadlineFindings_eq_singleton_iff.2 hf,
      deadlineFindings_eq_singleton_iff.2 ((h f).2 hf)]

end CaseRecord

end

namespace CaseSnapshot

section
variable {s : CaseSnapshot} {c : CaseRecord} (h : s.toRecord = .ok c)
include h

/-- The findings for a record are those that its case data calls for. -/
theorem mem_deadlineFindings_iff {today : Date} {f : DeadlineFinding} :
    f ∈ c.deadlineFindings today ↔ s.CallsFor today f := by
  rw [CaseRecord.mem_deadlineFindings_iff]
  constructor
  · rintro (⟨⟨manner, deadline⟩, hruling, horder, hf⟩ |
      ⟨⟨action, question, deadline⟩, hruling, hrequest, hf⟩)
    · obtain ⟨rfl, date, rfl, hpast⟩ := WrittenRepresentations.mem_findings_iff.1 hf
      obtain ⟨hoption, hdate⟩ := (order_eq_iff h).1 horder
      exact .representationsInPast ((decision?_eq_iff h _).2 hruling) hoption hdate hpast
    · obtain ⟨rfl, hf⟩ := InformationRequest.mem_findings_iff.1 hf
      obtain ⟨hoption, hdate⟩ := (request_eq_iff h _).1 ⟨question, hrequest⟩
      rcases hf with ⟨rfl, rfl⟩ | ⟨rfl, date, rfl, hpast⟩
      · exact .responseMissing ((decision?_eq_iff h _).2 hruling) hoption hdate
      · exact .responseInPast ((decision?_eq_iff h _).2 hruling) hoption hdate hpast
  · rintro (⟨decision, selected, deadline, past⟩ | ⟨decision, selected, deadline⟩ |
      ⟨decision, selected, deadline, past⟩)
    · exact .inl ⟨_, (decision?_eq_iff h .makeOrderForWrittenRepresentations).1 decision,
        (order_eq_iff h).2 ⟨selected, deadline⟩,
        WrittenRepresentations.mem_findings_iff.2 ⟨rfl, _, rfl, past⟩⟩
    · obtain ⟨question, hrequest⟩ :=
        (request_eq_iff h .requestMoreInformation).2 ⟨selected, deadline⟩
      exact .inr ⟨_, (decision?_eq_iff h .requestMoreInfo).1 decision, hrequest,
        InformationRequest.mem_findings_iff.2 ⟨rfl, .inl ⟨rfl, rfl⟩⟩⟩
    · obtain ⟨question, hrequest⟩ :=
        (request_eq_iff h .requestMoreInformation).2 ⟨selected, deadline⟩
      exact .inr ⟨_, (decision?_eq_iff h .requestMoreInfo).1 decision, hrequest,
        InformationRequest.mem_findings_iff.2 ⟨rfl, .inr ⟨rfl, _, rfl, past⟩⟩⟩

end

namespace CallsFor

variable {s t : CaseSnapshot} {today later : Date} {f : DeadlineFinding}

/-- A date that has passed has passed later too, and one that is missing is still missing. -/
theorem of_le (hf : s.CallsFor today f) (hlater : today ≤ later) : s.CallsFor later f := by
  cases hf with
  | representationsInPast decision selected deadline past =>
    exact .representationsInPast decision selected deadline (Date.lt_of_lt_of_le past hlater)
  | responseMissing decision selected deadline =>
    exact .responseMissing decision selected deadline
  | responseInPast decision selected deadline past =>
    exact .responseInPast decision selected deadline (Date.lt_of_lt_of_le past hlater)

theorem of_agree (hf : s.CallsFor today f) (h : s.AgreeOnDecision t) : t.CallsFor today f := by
  cases hf with
  | representationsInPast decision selected deadline past =>
    exact .representationsInPast (h.decision ▸ decision) (h.orderOption decision ▸ selected)
      (h.orderDate decision _ selected ▸ deadline) past
  | responseMissing decision selected deadline =>
    exact .responseMissing (h.decision ▸ decision) (h.requestOption decision ▸ selected)
      (h.requestDate decision selected ▸ deadline)
  | responseInPast decision selected deadline past =>
    exact .responseInPast (h.decision ▸ decision) (h.requestOption decision ▸ selected)
      (h.requestDate decision selected ▸ deadline) past

end CallsFor

theorem AgreeOnDecision.symm {s t : CaseSnapshot} (h : s.AgreeOnDecision t) :
    t.AgreeOnDecision s where
  decision := h.decision.symm
  orderOption hdecision := (h.orderOption (h.decision.trans hdecision)).symm
  orderDate hdecision manner hselected :=
    have hs := h.decision.trans hdecision
    (h.orderDate hs manner ((h.orderOption hs).trans hselected)).symm
  requestOption hdecision := (h.requestOption (h.decision.trans hdecision)).symm
  requestDate hdecision hselected :=
    have hs := h.decision.trans hdecision
    (h.requestDate hs ((h.requestOption hs).trans hselected)).symm

/-- The messages about the deadline of a decision, for case data that makes a record:

* a message is reported, and then alone, exactly if the case data calls for its finding,
* none is reported exactly if it calls for no finding,
* other case data that agrees on the decision, on the option that is selected for it and on the date
  of that option gets the same messages,
* a message that is reported one day is reported on every later day. -/
theorem findings_law {s : CaseSnapshot} {c : CaseRecord} (h : s.toRecord = .ok c) (today : Date) :
    (∀ f, (c.deadlineFindings today).map (·.message) = [f.message] ↔ s.CallsFor today f) ∧
    ((c.deadlineFindings today).map (·.message) = [] ↔ ∀ f, ¬ s.CallsFor today f) ∧
    (∀ t d, t.toRecord = .ok d → s.AgreeOnDecision t →
      (d.deadlineFindings today).map (·.message) = (c.deadlineFindings today).map (·.message)) ∧
    ∀ later, today ≤ later → ∀ m ∈ (c.deadlineFindings today).map (·.message),
      m ∈ (c.deadlineFindings later).map (·.message) := by
  refine ⟨fun f => ?_, ?_, fun t d ht hagree => ?_, fun later hlater m hm => ?_⟩
  · rw [CaseRecord.messages_eq_singleton_iff, mem_deadlineFindings_iff h]
  · rw [List.map_eq_nil_iff, List.eq_nil_iff_forall_not_mem]
    exact forall_congr' fun f => not_congr (mem_deadlineFindings_iff h)
  · refine congrArg (List.map _) (CaseRecord.deadlineFindings_ext fun f => ?_)
    rw [mem_deadlineFindings_iff ht, mem_deadlineFindings_iff h]
    exact ⟨fun hf => hf.of_agree hagree.symm, fun hf => hf.of_agree hagree⟩
  · obtain ⟨f, hf, rfl⟩ := List.mem_map.1 hm
    have hcalls := ((mem_deadlineFindings_iff h).1 hf).of_le hlater
    exact List.mem_map_of_mem ((mem_deadlineFindings_iff h).2 hcalls)

/-- A sequential order that is overdue, next to other members of the case data. -/
def overdue (order : Json) (others : List (String × Json)) : CaseSnapshot where
  id := ⟨2468135724681357, by decide, by decide⟩
  jurisdiction := none
  caseType := none
  state := none
  data := .ofMembers <|
    ("judicialDecision", .object [("decision", .string "MAKE_ORDER_FOR_WRITTEN_REPRESENTATIONS")])
      :: ("judicialDecisionMakeOrderForWrittenRepresentations", order) :: others

/-- The request for more information that was drafted before the order lacks its date, and the order
has another one for concurrent representations. Neither is looked at. -/
theorem findings_law_overdue :
    let s := overdue (.array [.string "SEQUENTIAL_REPRESENTATIONS", .string "1999-12-31",
        .string "2999-12-31"])
      [("judicialDecisionRequestMoreInfo",
        .object [("requestMoreInfoOption", .string "REQUEST_MORE_INFORMATION")])]
    let t := overdue (.object [("writtenOption", .string "SEQUENTIAL_REPRESENTATIONS"),
        ("writtenSequentialRepresentationsBy", .string "1999-12-31")]) []
    ∃ c d, s.toRecord = .ok c ∧ t.toRecord = .ok d ∧
      (c.deadlineFindings ⟨2000, 1, 1, by decide⟩).map (·.message) =
        ["The written representations date cannot be in the past."] ∧
      (d.deadlineFindings ⟨2000, 1, 1, by decide⟩).map (·.message) =
        (c.deadlineFindings ⟨2000, 1, 1, by decide⟩).map (·.message) ∧
      "The written representations date cannot be in the past." ∈
        (c.deadlineFindings ⟨2024, 2, 29, by decide⟩).map (·.message) := by
  intro s t
  have hs : (·.decision) <$> s.toRecord =
      .ok (some ⟨.makeOrderForWrittenRepresentations⟩) := by decide +kernel
  have ht : (·.decision) <$> t.toRecord =
      .ok (some ⟨.makeOrderForWrittenRepresentations⟩) := by decide +kernel
  obtain ⟨c, hc, -⟩ := map_eq_ok_iff.1 hs
  obtain ⟨d, hd, -⟩ := map_eq_ok_iff.1 ht
  have hagree : s.AgreeOnDecision t :=
    { decision := by decide +kernel
      orderOption := fun _ => by decide +kernel
      orderDate := fun _ manner hselected => by
        cases manner with
        | sequential => decide +kernel
        | concurrent => exact absurd hselected (by decide +kernel)
      requestOption := fun h => absurd h (by decide +kernel)
      requestDate := fun h => absurd h (by decide +kernel) }
  have hselected : s.orderOption? = some Manner.sequential.name := by decide +kernel
  have hdate : s.orderDate? .sequential = some ⟨1999, 12, 31, by decide⟩ := by decide +kernel
  have hcalls : s.CallsFor ⟨2000, 1, 1, by decide⟩ .representationsInPast :=
    .representationsInPast (by decide +kernel) hselected hdate (by decide)
  obtain ⟨hreported, -, hsame, hlater⟩ := findings_law hc ⟨2000, 1, 1, by decide⟩
  have hmessages := (hreported _).2 hcalls
  refine ⟨c, d, hc, hd, hmessages, hsame t d hd hagree, hlater _ (by decide) _ ?_⟩
  rw [hmessages]
  exact List.mem_cons_self

end CaseSnapshot

end GeneralApplications

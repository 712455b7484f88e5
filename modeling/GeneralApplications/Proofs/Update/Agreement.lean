import GeneralApplications.Proofs.Case.Rewriting
import GeneralApplications.Proofs.Platform.Run
import GeneralApplications.Proofs.Update.Serialisation
import GeneralApplications.Proofs.Update.View
import Mathlib.Data.List.Induction

/-!
# Updates in memory and on the platform

A parent case can be kept in memory as a record while several applications change their states, or
it can be updated on the platform once for each change, where every update reads the stored data
back. Both come to the same data (`Platform.afterUpdates_agrees`). The record that is read back
differs from the one in memory in what it notes as cleared: a field that has a value by now is not
noted any more (`CaseSnapshot.Stores`). Since no update takes a field's value away, this makes no
difference to the data.
-/

namespace GeneralApplications

open Json

/-! ## What an update does to a record -/

theorem Json.RecordField.write_collection_eq_none_iff {α σ : Type} {name : String}
    {get : σ → List α} {c : Codec Json α} {s : σ} :
    (RecordField.collection name get c).write s = none ↔ get s = [] := by
  simp [RecordField.collection]

namespace CaseRecord
variable {c : CaseRecord} {child : CaseReference} {state : String} {uncloaked : Bool}

/-- An update takes no field's value away. -/
theorem write_withApplicationState_eq_none {f : RecordField CaseRecord} (hf : f ∈ fields)
    (h : f.write (c.withApplicationState child state uncloaked) = none) : f.write c = none := by
  have hset {entries : List (Entry ApplicationSummary)}
      (hnil : settingState child state entries = []) : entries = [] := List.map_eq_nil_iff.1 hnil
  revert f
  simp only [fields, List.forall_mem_cons]
  refine ⟨id, id, id, id, id, id, id, id, id, ?_, ?_, by simp⟩
  · rw [RecordField.write_collection_eq_none_iff, RecordField.write_collection_eq_none_iff]
    exact hset
  · rw [RecordField.write_collection_eq_none_iff, RecordField.write_collection_eq_none_iff]
    intro happend
    exact hset (List.append_eq_nil_iff.1 happend).1

theorem get?_object_of_withApplicationState {k : String}
    (h : (c.withApplicationState child state uncloaked).object.get? k = none) :
    c.object.get? k = none := by
  by_cases hk : k ∈ typedNames
  · rw [typedNames_eq_fields] at hk
    obtain ⟨f, hf, rfl⟩ := List.mem_map.1 hk
    rw [get?_object hf, Option.or_eq_none_iff] at h ⊢
    exact ⟨h.1, write_withApplicationState_eq_none hf h.2⟩
  · rw [get?_object_of_not_mem hk] at h ⊢
    exact h

/-- What is noted as cleared makes a difference to the data only where a field has no value. -/
theorem toData_cleared_congr {ks : List String}
    (h : ∀ k, c.object.get? k = none → (k ∈ ks ↔ k ∈ c.cleared)) :
    CaseRecord.toData { c with cleared := ks } = c.toData := by
  refine Object.ext_get? fun k => ?_
  have hobject : CaseRecord.object { c with cleared := ks } = c.object := rfl
  rw [get?_toData, get?_toData, hobject]
  cases hk : c.object.get? k with
  | some t => rfl
  | none => simp only [h k hk]

theorem Suits.withApplicationState {s : CaseSnapshot} (h : c.Suits s) :
    (c.withApplicationState child state uncloaked).Suits s where
  apart := h.apart.withApplicationState
  reference := h.reference
  state := h.state
  cleared_typed := h.cleared_typed
  cleared_sorted := h.cleared_sorted

end CaseRecord

/-! ## Calls -/

/-- A call for an update of an application that has a reference and a parent case. -/
structure LinkedCall extends UpdateCall where
  reference : CaseReference
  parent : CaseReference
  child_reference : child.reference = some reference
  child_parent : child.parent = some parent

namespace LinkedCall

/-- The record of the parent case with the call's state recorded in it. -/
def apply (call : LinkedCall) (c : CaseRecord) : CaseRecord :=
  c.withApplicationState call.reference call.state call.child.isUncloaked

/-- The record with the states of several calls, one after another. -/
def applyAll (calls : List LinkedCall) (c : CaseRecord) : CaseRecord :=
  calls.foldl (fun c call => call.apply c) c

theorem applyAll_concat (calls : List LinkedCall) (call : LinkedCall) (c : CaseRecord) :
    applyAll (calls ++ [call]) c = call.apply (applyAll calls c) :=
  List.foldl_concat ..

end LinkedCall

namespace Platform

/-- A call is carried out from its beginning to its end, without disruption. -/
def update (p : Platform) (call : UpdateCall) : Except Failure Unit × List Errand × Platform :=
  p.run .none call.procedure

/-- The platform after several calls, one after another. -/
def afterUpdates (p : Platform) (calls : List LinkedCall) : Platform :=
  calls.foldl (fun p call => (p.update call.toUpdateCall).2.2) p

theorem afterUpdates_concat (p : Platform) (calls : List LinkedCall) (call : LinkedCall) :
    p.afterUpdates (calls ++ [call]) = ((p.afterUpdates calls).update call.toUpdateCall).2.2 :=
  List.foldl_concat ..

end Platform

/-! ## The invariant -/

/-- From the snapshot the record in memory is read, but for what is noted as cleared: of the fields
without a value the same ones are. -/
def CaseSnapshot.Stores (s : CaseSnapshot) (c : CaseRecord) : Prop :=
  ∃ ks, s.toRecord = .ok { c with cleared := ks } ∧
    ∀ k, c.object.get? k = none → (k ∈ ks ↔ k ∈ c.cleared)

namespace CaseSnapshot
variable {s : CaseSnapshot} {c : CaseRecord}

theorem Stores.of_toRecord (h : s.toRecord = .ok c) : s.Stores c :=
  ⟨c.cleared, h, fun _ _ => .rfl⟩

/-- What a call makes of the record that is read is what it makes of the one in memory. -/
theorem Stores.toData_apply {call : LinkedCall} {ks : List String}
    (hks : ∀ k, c.object.get? k = none → (k ∈ ks ↔ k ∈ c.cleared)) :
    CaseRecord.toData { call.apply c with cleared := ks } = (call.apply c).toData :=
  CaseRecord.toData_cleared_congr fun k hk =>
    hks k (CaseRecord.get?_object_of_withApplicationState hk)

/-- A call records in the snapshot's data what it does to the record in memory. -/
theorem Stores.recording (h : s.Stores c) (call : LinkedCall) :
    s.recording call.reference call.state call.child.isUncloaked = .ok (call.apply c).toData := by
  obtain ⟨ks, hs, hks⟩ := h
  exact recording_eq_ok_iff.2 ⟨_, hs, toData_apply hks⟩

/-- With that data the snapshot stores the new record. -/
theorem Stores.apply (h : s.Stores c) (call : LinkedCall) :
    Stores { s with data := (call.apply c).toData } (call.apply c) := by
  obtain ⟨ks, hs, hks⟩ := h
  have hsuits : CaseRecord.Suits { call.apply c with cleared := ks } s :=
    (suits_of_toRecord hs).withApplicationState
  have hread := hsuits.toRecord_toData
  rw [toData_apply hks] at hread
  refine ⟨_, hread, fun k hk => ?_⟩
  rw [CaseRecord.mem_uncovered_iff]
  have hbefore : k ∈ ks ↔ k ∈ c.cleared :=
    hks k (CaseRecord.get?_object_of_withApplicationState hk)
  exact (and_iff_left hk).trans hbefore

end CaseSnapshot

/-! ## Runs -/

namespace Platform
variable {s : CaseSnapshot} {c : CaseRecord}

/-- A call against a platform whose parent stores the record succeeds, and the platform has the data
of the new record then. -/
theorem update_of_stores (h : s.Stores c) (n : Nat) (call : LinkedCall) :
    (Platform.mk (some s) n).update call.toUpdateCall =
      (.ok (),
        [.start call.parent .updateParentState,
          .submit call.parent ((StartedEvent.mk (token (n + 1)) s none).update
            (call.apply c).toData)],
        ⟨some { s with data := (call.apply c).toData }, n + 1⟩) := by
  have hprocedure : call.procedure = .ask (.start call.parent .updateParentState)
      (call.child.finishUpdate call.state call.reference call.parent) :=
    CaseRecord.run_updateParent call.child_reference call.child_parent
  have hfinish : call.child.finishUpdate call.state call.reference call.parent
      (.ok ⟨token (n + 1), s, none⟩) =
        .ask (.submit call.parent ((StartedEvent.mk (token (n + 1)) s none).update
          (call.apply c).toData)) fun outcome => .done (outcome.map fun _ => ()) := by
    simp only [CaseRecord.finishUpdate, h.recording call]
  have hstart : (Platform.mk (some s) n).carryOut .none (.start call.parent .updateParentState) =
      (.ok ⟨token (n + 1), s, none⟩, ⟨some s, n + 1⟩) := rfl
  rw [update, hprocedure, run_ask, hstart, hfinish, run_ask]
  rfl

/-- After every run of calls the platform's parent stores the record in memory, and after the first
call it has that record's data. -/
theorem afterUpdates_stores (hs : s.toRecord = .ok c) (n : Nat) (calls : List LinkedCall) :
    ∃ data, (Platform.mk (some s) n).afterUpdates calls =
        ⟨some { s with data := data }, n + calls.length⟩ ∧
      CaseSnapshot.Stores { s with data := data } (LinkedCall.applyAll calls c) ∧
      (calls ≠ [] → data = (LinkedCall.applyAll calls c).toData) := by
  induction calls using List.reverseRecOn with
  | nil => exact ⟨s.data, rfl, .of_toRecord hs, fun h => absurd rfl h⟩
  | append_singleton calls call ih =>
    obtain ⟨data, hafter, hstores, _⟩ := ih
    rw [LinkedCall.applyAll_concat, afterUpdates_concat, hafter, update_of_stores hstores,
      List.length_append]
    exact ⟨_, rfl, hstores.apply call, fun _ => rfl⟩

/-- Updating on the platform agrees with updating in memory. A parent case that can be read is
converted once, and the states of any calls are recorded in the record in memory; or the same calls
run on the platform without disruption, one after another. Every call succeeds, after the first `k`
calls, for every `k` but zero, the platform has the data that the record in memory is written as,
and at no time it has data that cannot be read. -/
theorem afterUpdates_agrees (hs : s.toRecord = .ok c) (n : Nat) (calls : List LinkedCall) :
    let p : Platform := ⟨some s, n⟩
    (∀ k (hk : k < calls.length),
      ((p.afterUpdates (calls.take k)).update calls[k].toUpdateCall).1 = .ok ()) ∧
    (∀ k, 1 ≤ k → k ≤ calls.length → (p.afterUpdates (calls.take k)).parent =
      some { s with data := (LinkedCall.applyAll (calls.take k) c).toData }) ∧
    ∀ k stored, (p.afterUpdates (calls.take k)).parent = some stored →
      ∃ record, stored.toRecord = .ok record := by
  intro p
  refine ⟨fun k hk => ?_, fun k hpos hk => ?_, fun k stored hstored => ?_⟩
  · obtain ⟨data, hafter, hstores, _⟩ := afterUpdates_stores hs n (calls.take k)
    rw [hafter, update_of_stores hstores]
  · obtain ⟨data, hafter, _, hdata⟩ := afterUpdates_stores hs n (calls.take k)
    have hne : calls.take k ≠ [] := by
      intro hnil
      have hlength := congrArg List.length hnil
      rw [List.length_take, List.length_nil] at hlength
      omega
    rw [hafter, hdata hne]
  · obtain ⟨data, hafter, ⟨ks, hread, _⟩, _⟩ := afterUpdates_stores hs n (calls.take k)
    rw [hafter] at hstored
    obtain rfl := Option.some.inj hstored
    exact ⟨_, hread⟩

/-- A parent case whose respondents' view was cleared. -/
def clearedView : CaseSnapshot where
  id := ⟨7777666655554444, by decide, by decide⟩
  jurisdiction := none
  caseType := none
  state := none
  data := .ofMembers
    [("gaDetailsRespondentSol", .null),
     ("generalApplicationsDetails", .array
       [.object [("value", .object
         [("caseLink", .object [("CaseReference", .string "3333-4444-5555-6666")])])]])]

/-- A new state of the application on that case, which has been uncloaked. -/
def uncloakedCall (state : String) : LinkedCall where
  child := { CaseRecord.empty with
    reference := some ⟨3333444455556666, by decide, by decide⟩
    parentLink := some ⟨some "7777666655554444"⟩
    uncloaked := some .yes }
  state := state
  reference := ⟨3333444455556666, by decide, by decide⟩
  parent := ⟨7777666655554444, by decide, by decide⟩
  child_reference := rfl
  child_parent := rfl

/-- The application enters the cleared view with its first state and stays there with its second. -/
theorem afterUpdates_agrees_clearedView :
    let calls := [uncloakedCall "LISTED_FOR_A_HEARING", uncloakedCall "ORDER_MADE"]
    ∃ c, clearedView.toRecord = .ok c ∧
      ((Platform.mk (some clearedView) 0).afterUpdates calls).parent =
        some { clearedView with data := (LinkedCall.applyAll calls c).toData } ∧
      (LinkedCall.applyAll calls c).toData.get? "gaDetailsRespondentSol" =
        some (.array [.object [("value", .object
          [("caseLink", .object [("CaseReference", .string "3333-4444-5555-6666")]),
           ("caseState", .string "ORDER_MADE")])]]) := by
  intro calls
  have hview : (fun c => (LinkedCall.applyAll calls c).toData.get? "gaDetailsRespondentSol") <$>
      clearedView.toRecord = .ok (some (.array [.object [("value", .object
        [("caseLink", .object [("CaseReference", .string "3333-4444-5555-6666")]),
         ("caseState", .string "ORDER_MADE")])]])) := by
    decide +kernel
  obtain ⟨c, hread, hview⟩ := map_eq_ok_iff.1 hview
  exact ⟨c, hread, (afterUpdates_agrees hread 0 calls).2.1 2 (by decide) (by decide), hview⟩

end Platform

end GeneralApplications

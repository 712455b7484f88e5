import GeneralApplications.Proofs.Platform.Versioned
import GeneralApplications.Proofs.Update.Procedure
import Mathlib.Data.List.Nodup
import Mathlib.Logic.Function.Basic

/-!
# Updates that run at once

Any number of updates of one parent case may be under way at once, each between its two steps or
before them, and a schedule decides which goes on next. On a platform with versions this comes to
the same as carrying out one after another the updates whose submissions are accepted
(`updates_serialise`). What carries the proof is that an update whose token is current is about to
submit the recording in the data as it now stands (`UpdateStage`).
-/

namespace GeneralApplications

open Json (Object)

/-- A call for an update: the application and its new state. -/
structure UpdateCall where
  child : CaseRecord
  state : String

namespace UpdateCall

/-- The computation that the call begins. -/
def procedure (call : UpdateCall) : Errands (Except Failure Unit) :=
  (call.child.updateParent call.state).run

/-- The parent case with the call's state recorded in its data, all at once. -/
def record (call : UpdateCall) (s : CaseSnapshot) : Except Failure CaseSnapshot := do
  let some child := call.child.reference
    | throw (.of .badRequest "Application has no case reference")
  let data ← s.recording child call.state call.child.isUncloaked
  return { s with data := data }

theorem record_eq_ok {call : UpdateCall} {s : CaseSnapshot} {c : CaseReference} {data : Object}
    (hc : call.child.reference = some c)
    (h : s.recording c call.state call.child.isUncloaked = .ok data) :
    call.record s = .ok { s with data := data } := by
  simp [record, hc, h, bind, Except.bind, pure, Except.pure]

/-- A call either fails at once or begins by starting an event. -/
theorem procedure_cases (call : UpdateCall) :
    (∃ failure, call.procedure = .done (.error failure)) ∨
    ∃ c r, call.child.reference = some c ∧
      call.procedure =
        .ask (.start r .updateParentState) (call.child.finishUpdate call.state c r) := by
  have hfails (h : call.child.reference = none ∨ call.child.parent = none) :
      ∃ failure, call.procedure = .done (.error failure) := by
    obtain ⟨failure, hrun, _⟩ := call.child.run_updateParent_of_unlinked call.state h
    exact ⟨failure, hrun⟩
  cases hc : call.child.reference with
  | none => exact .inl (hfails (.inl hc))
  | some c =>
    cases hr : call.child.parent with
    | none => exact .inl (hfails (.inr hr))
    | some r => exact .inr ⟨c, r, rfl, CaseRecord.run_updateParent hc hr⟩

end UpdateCall

variable {ι : Type} [DecidableEq ι]

/-- Updates under way: the platform, what is left of each call, and the calls whose submissions
were accepted, in the order of acceptance. -/
structure Updates (ι : Type) where
  platform : VersionedPlatform
  pending : ι → Errands (Except Failure Unit)
  accepted : List ι

namespace Updates

/-- All calls are about to begin. -/
def start (p : VersionedPlatform) (calls : ι → UpdateCall) : Updates ι :=
  ⟨p, fun i => (calls i).procedure, []⟩

/-- The next step of one call: its errand is carried out. A call that has returned has none. -/
def advance (scheme : TokenScheme) (refusal : Failure) (u : Updates ι) (i : ι) : Updates ι :=
  match u.pending i with
  | .done _ => u
  | .ask e next =>
    let (outcome, platform) := u.platform.carryOut scheme refusal e
    { platform := platform
      pending := Function.update u.pending i (next outcome)
      accepted := if u.platform.accepts scheme e then u.accepted ++ [i] else u.accepted }

/-- The steps of a schedule, one after another. -/
def run (scheme : TokenScheme) (refusal : Failure) (u : Updates ι) (schedule : List ι) :
    Updates ι :=
  schedule.foldl (advance scheme refusal) u

end Updates

/-! ## Stages of a call -/

/-- How far a call has come, by what is left of it; `accepted` says whether its submission was. -/
inductive UpdateStage (scheme : TokenScheme) (p : VersionedPlatform) (call : UpdateCall)
    (accepted : Prop) : Errands (Except Failure Unit) → Prop
  /-- The call has not begun. -/
  | waiting (h : ¬ accepted) : UpdateStage scheme p call accepted call.procedure
  /-- The call is about to submit data under a token whose version was issued; if it is still the
  current one, then the data is the call's recording in the data that the platform has. -/
  | submitting {r : CaseReference} {started : StartedEvent} {data : Object} {version : Nat}
      (h : ¬ accepted) (htoken : scheme.versionOf started.token = some version)
      (hle : version ≤ p.version)
      (hdata : version = p.version → call.record p.case = .ok { p.case with data := data }) :
      UpdateStage scheme p call accepted
        (.ask (.submit r (started.update data)) fun outcome => .done (outcome.map fun _ => ()))
  /-- The call has returned a failure. -/
  | failed {failure : Failure} (h : ¬ accepted) :
      UpdateStage scheme p call accepted (.done (.error failure))
  /-- The call has returned without one. -/
  | succeeded (h : accepted) : UpdateStage scheme p call accepted (.done (.ok ()))

section
variable {scheme : TokenScheme} {refusal : Failure} {p p' : VersionedPlatform} {call : UpdateCall}
  {accepted : Prop}

/-- A call that returns without a failure had its submission accepted. -/
theorem UpdateStage.returned_iff {d : Errands (Except Failure Unit)}
    (h : UpdateStage scheme p call accepted d) : d = .done (.ok ()) ↔ accepted := by
  cases h with
  | waiting h =>
    refine iff_of_false (fun he => ?_) h
    rcases call.procedure_cases with ⟨failure, hf⟩ | ⟨c, r, _, hf⟩
    · rw [hf] at he
      cases he
    · rw [hf] at he
      cases he
  | submitting h => exact iff_of_false (by simp) h
  | failed h => exact iff_of_false (by simp) h
  | succeeded h => exact iff_of_true rfl h

/-- A call's stage does not depend on what the platform has issued. -/
theorem UpdateStage.of_same {d : Errands (Except Failure Unit)}
    (h : UpdateStage scheme p call accepted d) (hcase : p'.case = p.case)
    (hversion : p'.version = p.version) : UpdateStage scheme p' call accepted d := by
  cases h with
  | waiting h => exact .waiting h
  | submitting h htoken hle hdata =>
    exact .submitting h htoken (by omega) (by rwa [hversion, hcase])
  | failed h => exact .failed h
  | succeeded h => exact .succeeded h

/-- When the version goes up, no token issued before is current any more. -/
theorem UpdateStage.of_later {d : Errands (Except Failure Unit)}
    (h : UpdateStage scheme p call accepted d) (hversion : p.version < p'.version) :
    UpdateStage scheme p' call accepted d := by
  cases h with
  | waiting h => exact .waiting h
  | submitting h htoken hle hdata => exact .submitting h htoken (by omega) (by omega)
  | failed h => exact .failed h
  | succeeded h => exact .succeeded h

/-- The started event is answered: either the call has failed, or it is about to submit its
recording in the data that came with the answer. -/
theorem UpdateStage.of_start {c r : CaseReference} (h : ¬ accepted)
    (hc : call.child.reference = some c) :
    UpdateStage scheme (p.carryOut scheme refusal (.start r .updateParentState)).2 call accepted
      (call.child.finishUpdate call.state c r
        (p.carryOut scheme refusal (.start r .updateParentState)).1) := by
  by_cases hr : r = p.case.id
  · simp only [VersionedPlatform.carryOut, hr, if_true, CaseRecord.finishUpdate]
    cases hdata : p.case.recording c call.state call.child.isUncloaked with
    | error failure => exact .failed h
    | ok data =>
      exact .submitting h (scheme.versionOf_issue ..) (Nat.le_refl _) fun _ =>
        UpdateCall.record_eq_ok hc hdata
  · simp only [VersionedPlatform.carryOut, hr, if_false, CaseRecord.finishUpdate]
    exact .failed h

end

/-! ## The invariant -/

/-- The invariant of updates under way: the platform has the initial case with the accepted calls
recorded in their order. -/
structure Updates.Serial (scheme : TokenScheme) (calls : ι → UpdateCall) (initial : CaseSnapshot)
    (u : Updates ι) : Prop where
  stage : ∀ i, UpdateStage scheme u.platform (calls i) (i ∈ u.accepted) (u.pending i)
  nodup : u.accepted.Nodup
  recorded : u.accepted.foldlM (fun s i => (calls i).record s) initial = .ok u.platform.case

namespace Updates
variable {scheme : TokenScheme} {refusal : Failure} {calls : ι → UpdateCall}
  {initial : CaseSnapshot} {u : Updates ι}

omit [DecidableEq ι] in
theorem serial_start (p : VersionedPlatform) (calls : ι → UpdateCall) :
    Serial scheme calls p.case (start p calls) where
  stage _ := .waiting (by simp [start])
  nodup := List.nodup_nil
  recorded := rfl

theorem advance_of_ask {i : ι} {e : Errand} {next : e.Outcome → Errands (Except Failure Unit)}
    (hd : u.pending i = .ask e next) :
    u.advance scheme refusal i =
      { platform := (u.platform.carryOut scheme refusal e).2
        pending := Function.update u.pending i (next (u.platform.carryOut scheme refusal e).1)
        accepted := if u.platform.accepts scheme e then u.accepted ++ [i] else u.accepted } := by
  rw [advance, hd]

theorem advance_of_done {i : ι} {a : Except Failure Unit} (hd : u.pending i = .done a) :
    u.advance scheme refusal i = u := by
  rw [advance, hd]

/-- A step that is no accepted submission keeps the invariant if it leaves its call in a stage. -/
theorem Serial.advance_of_not_accepts (h : Serial scheme calls initial u) {i : ι} {e : Errand}
    {next : e.Outcome → Errands (Except Failure Unit)} (hd : u.pending i = .ask e next)
    (hacc : u.platform.accepts scheme e = false)
    (hi : UpdateStage scheme (u.platform.carryOut scheme refusal e).2 (calls i)
      (i ∈ u.accepted) (next (u.platform.carryOut scheme refusal e).1)) :
    Serial scheme calls initial (u.advance scheme refusal i) := by
  obtain ⟨hcase, hversion⟩ := u.platform.carryOut_of_not_accepts refusal hacc
  rw [advance_of_ask hd, hacc]
  refine ⟨fun j => ?_, h.nodup, ?_⟩
  · by_cases hj : j = i
    · subst hj
      simpa using hi
    · simpa [Function.update_of_ne hj] using (h.stage j).of_same hcase hversion
  · simpa [hcase] using h.recorded

/-- A submission that is accepted keeps the invariant if it has the call's recording in the
platform's case, and the call has returned then. -/
theorem Serial.advance_of_accepts (h : Serial scheme calls initial u) {i : ι} {r : CaseReference}
    {content : EventSubmission} {next : Except Failure CaseSnapshot → Errands (Except Failure Unit)}
    (hd : u.pending i = .ask (.submit r content) next)
    (hacc : u.platform.accepts scheme (.submit r content) = true) (hnot : i ∉ u.accepted)
    (hrecord : (calls i).record u.platform.case = .ok { u.platform.case with data := content.data })
    (hnext : ∀ s, next (.ok s) = .done (.ok ())) :
    Serial scheme calls initial (u.advance scheme refusal i) := by
  have hout : u.platform.carryOut scheme refusal (.submit r content) =
      (.ok { u.platform.case with data := content.data },
        { u.platform with
          case := { u.platform.case with data := content.data }
          version := u.platform.version + 1 }) := by
    simp only [VersionedPlatform.carryOut, hacc, if_true]
  rw [advance_of_ask hd, hacc, hout, hnext]
  refine ⟨fun j => ?_, ?_, ?_⟩
  · by_cases hj : j = i
    · subst hj
      simpa using .succeeded trivial
    · simpa [Function.update_of_ne hj, hj] using (h.stage j).of_later (Nat.lt_succ_self _)
  · simpa [List.nodup_append, h.nodup] using fun j hj => ne_of_mem_of_not_mem hj hnot
  · simp [List.foldlM_append, h.recorded, hrecord, bind, Except.bind, pure, Except.pure]

/-- One step of any call keeps the invariant. -/
theorem Serial.advance (h : Serial scheme calls initial u) (i : ι) :
    Serial scheme calls initial (u.advance scheme refusal i) := by
  have hstage := h.stage i
  generalize hd : u.pending i = d at hstage
  cases hstage with
  | waiting hnot =>
    rcases (calls i).procedure_cases with ⟨failure, hf⟩ | ⟨c, r, hc, hf⟩
    · rwa [advance_of_done (hd.trans hf)]
    · exact h.advance_of_not_accepts (hd.trans hf) rfl (.of_start hnot hc)
  | @submitting r started data version hnot htoken hle hdata =>
    cases hacc : u.platform.accepts scheme (.submit r (started.update data)) with
    | true =>
      have hcurrent : version = u.platform.version := by
        have htaken := of_decide_eq_true (Bool.and_eq_true_iff.1 hacc).2
        exact Option.some.inj (htoken.symm.trans htaken)
      exact h.advance_of_accepts hd hacc hnot (hdata hcurrent) fun _ => rfl
    | false =>
      refine h.advance_of_not_accepts hd hacc ?_
      simp only [VersionedPlatform.carryOut, hacc]
      exact .failed hnot
  | failed hnot => rwa [advance_of_done hd]
  | succeeded hacc => rwa [advance_of_done hd]

/-- So does every schedule. -/
theorem Serial.run (h : Serial scheme calls initial u) (schedule : List ι) :
    Serial scheme calls initial (u.run scheme refusal schedule) := by
  induction schedule generalizing u with
  | nil => exact h
  | cons i schedule ih => exact ih (h.advance i)

end Updates

/-! ## Returning -/

/-- The computation returns after `n` errands at most, whatever comes of them. -/
inductive ReturnsWithin : Nat → Errands (Except Failure Unit) → Prop
  | done {n : Nat} (a : Except Failure Unit) : ReturnsWithin n (.done a)
  | ask {n : Nat} {e : Errand} {next : e.Outcome → Errands (Except Failure Unit)}
      (h : ∀ outcome, ReturnsWithin n (next outcome)) : ReturnsWithin (n + 1) (.ask e next)

theorem UpdateCall.returnsWithin (call : UpdateCall) : ReturnsWithin 2 call.procedure := by
  rcases call.procedure_cases with ⟨failure, hf⟩ | ⟨c, r, _, hf⟩
  · rw [hf]
    exact .done _
  · rw [hf]
    refine .ask fun outcome => ?_
    cases outcome with
    | error failure => exact .done _
    | ok started =>
      simp only [CaseRecord.finishUpdate]
      split
      · exact .done _
      · exact .ask fun _ => .done _

theorem ReturnsWithin.exists_done {d : Errands (Except Failure Unit)} (h : ReturnsWithin 0 d) :
    ∃ a, d = .done a := by
  cases h with
  | done a => exact ⟨a, rfl⟩

namespace Updates
variable {scheme : TokenScheme} {refusal : Failure} {u : Updates ι}

/-- A call needs one errand less for each of its steps in the schedule. -/
theorem returnsWithin_run {i : ι} {n : Nat} (h : ReturnsWithin n (u.pending i))
    (schedule : List ι) :
    ReturnsWithin (n - schedule.count i) ((u.run scheme refusal schedule).pending i) := by
  induction schedule generalizing u n with
  | nil => exact h
  | cons j schedule ih =>
    have hstep : ReturnsWithin (n - if j = i then 1 else 0)
        ((u.advance scheme refusal j).pending i) := by
      by_cases hj : j = i
      · subst hj
        generalize hd : u.pending j = d at h
        cases h with
        | done a =>
          rw [advance_of_done hd, hd]
          exact .done a
        | ask h =>
          rw [advance_of_ask hd]
          simpa using h _
      · cases hd : u.pending j with
        | done a => simpa [advance_of_done hd, hj] using h
        | ask e next => simpa [advance_of_ask hd, hj, Function.update_of_ne (Ne.symm hj)] using h
    have hrun : u.run scheme refusal (j :: schedule) =
        (u.advance scheme refusal j).run scheme refusal schedule := rfl
    rw [hrun]
    simpa [Nat.sub_sub, Nat.add_comm, List.count_cons] using ih hstep

end Updates

/-- Updates of one parent case that run at once, in any schedule of their steps on a platform with
versions, come to the same as those whose submissions were accepted, one after another in the order
of acceptance: they are the updates that return without a failure, each was accepted once, and the
parent case is the initial one with their recordings and nothing else. An update that had its two
steps has returned. -/
theorem updates_serialise (scheme : TokenScheme) (refusal : Failure) (p : VersionedPlatform)
    (calls : ι → UpdateCall) (schedule : List ι) :
    let u := (Updates.start p calls).run scheme refusal schedule
    (∀ i, u.pending i = .done (.ok ()) ↔ i ∈ u.accepted) ∧ u.accepted.Nodup ∧
      u.accepted.foldlM (fun s i => (calls i).record s) p.case = .ok u.platform.case ∧
      ∀ i, 2 ≤ schedule.count i → ∃ result, u.pending i = .done result := by
  intro u
  have hserial : u.Serial scheme calls p.case := (Updates.serial_start p calls).run schedule
  refine ⟨fun i => (hserial.stage i).returned_iff, hserial.nodup, hserial.recorded, fun i hi => ?_⟩
  have hwithin : ReturnsWithin 2 ((Updates.start p calls).pending i) := (calls i).returnsWithin
  have hreturns : ReturnsWithin (2 - schedule.count i) (u.pending i) :=
    Updates.returnsWithin_run hwithin schedule
  rw [Nat.sub_eq_zero_of_le hi] at hreturns
  exact hreturns.exists_done

end GeneralApplications

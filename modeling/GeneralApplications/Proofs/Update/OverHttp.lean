import GeneralApplications.Proofs.Case.Rewriting
import GeneralApplications.Proofs.Http.Url
import GeneralApplications.Proofs.Platform.Client
import GeneralApplications.Proofs.Update.Procedure

/-!
# Updates over HTTP

An update of the parent case against a platform that is reached over HTTP, whatever the peer replies.
`UpdateCourse` lists in the order of its steps all that it can come to: the first step that fails
decides what has been sent and how the update fails. A submission is a request that can be formed
whenever the event could be started (`PlatformSettings.exists_submitRequest`).
-/

namespace GeneralApplications

open Http (Outgoing Exchange Reply Script TransportError IsPlain IsSegment below)
open Json (Codec Document)

/-! ## Requests of an update -/

/-- A reference is plain: it is written in digits. -/
theorem CaseReference.isPlain_text (r : CaseReference) : IsPlain r.text.toList := by
  have hdigits : ∀ c ∈ r.text.toList, c.isDigit = true := by
    intro c hc
    refine Nat.isDigit_of_mem_toDigits (b := 10) (n := r.number) (by decide) (by decide) ?_
    simpa [text] using hc
  refine ⟨fun h => ?_, fun h => ?_, List.all_eq_true.2 fun c h => decide_eq_true ?_⟩
  · exact absurd (hdigits _ h) (by decide)
  · exact absurd (hdigits _ h) (by decide)
  · have hc := hdigits c h
    simp only [Char.isDigit, Bool.and_eq_true, decide_eq_true_eq] at hc
    have hle : (48 : Nat) ≤ c.toNat := hc.1
    omega

theorem CaseEvent.isPlain_name (e : CaseEvent) : IsPlain e.name.toList := by
  cases e <;> exact ⟨by decide, by decide, by decide⟩

theorem isSegment_cases : IsSegment "cases".toList where
  no_fragment := by decide
  no_query := by decide
  visible := by decide
  ne_nil := by decide
  no_slash := by decide

namespace PlatformSettings

/-- If an event can be started on a case, then its submission can be sent. -/
theorem exists_submitRequest {s : PlatformSettings} {r : CaseReference} {event : CaseEvent}
    {get : Outgoing} (hget : s.startRequest r event = .ok get) (content : EventSubmission) :
    ∃ post, s.submitRequest r content = .ok post := by
  have hstart : s.baseUrl ++ ("/cases/" ++ r.text ++ "/event-triggers/" ++ event.name) =
      String.ofList (below s.baseUrl.toList "cases".toList
        (r.text.toList ++ ("/event-triggers/".toList ++ event.name.toList))) := by
    rw [← String.toList_inj]
    simp [below]
  have hsubmit : s.baseUrl ++ ("/cases/" ++ r.text ++ "/events") =
      String.ofList (below s.baseUrl.toList "cases".toList
        (r.text.toList ++ "/events".toList)) := by
    rw [← String.toList_inj]
    simp [below]
  have hword {w : List Char} (hw : IsPlain w) : IsPlain (r.text.toList ++ w) :=
    r.isPlain_text.append hw
  have htrigger : IsPlain "/event-triggers/".toList := ⟨by decide, by decide, by decide⟩
  have hevents : IsPlain "/events".toList := ⟨by decide, by decide, by decide⟩
  rw [startRequest, hstart] at hget
  rw [submitRequest, hsubmit]
  exact Outgoing.exists_ofParts_below isSegment_cases
    (hword (htrigger.append event.isPlain_name)) (hword hevents) hget rfl

end PlatformSettings

/-! ## Courses -/

section
variable (s : PlatformSettings) (child : CaseRecord) (state : String) (first second : Reply)

/-- All that an update over HTTP can come to, by the requests that are sent and the result. The peer
gives the reply `first` to the first request and `second` to the second one. -/
inductive UpdateCourse : List Outgoing → Except Failure Unit → Prop
  /-- The application has no reference, or no parent that can be read. -/
  | unlinked {failure : Failure} (h : child.reference = none ∨ child.parent = none)
      (hkind : failure.kind = .badRequest) : UpdateCourse [] (.error failure)
  /-- The settings admit no request. -/
  | unsent {c r : CaseReference} {e : TransportError} {failure : Failure}
      (hc : child.reference = some c) (hr : child.parent = some r)
      (hget : s.startRequest r .updateParentState = .error e)
      (hkind : failure.kind = .platformFailure) : UpdateCourse [] (.error failure)
  /-- The event is not started. -/
  | unstarted {c r : CaseReference} {get : Outgoing} {failure : Failure}
      (hc : child.reference = some c) (hr : child.parent = some r)
      (hget : s.startRequest r .updateParentState = .ok get)
      (hfirst : first.FailsWith StartedEvent.codec failure) : UpdateCourse [get] (.error failure)
  /-- The event is started with a snapshot that is no case record. -/
  | unreadable {c r : CaseReference} {get : Outgoing} {started : StartedEvent} {failure : Failure}
      (hc : child.reference = some c) (hr : child.parent = some r)
      (hget : s.startRequest r .updateParentState = .ok get)
      (hfirst : first.Gives StartedEvent.codec started)
      (hparent : started.snapshot.toRecord = .error failure)
      (hkind : failure.kind = .badRequest) : UpdateCourse [get] (.error failure)
  /-- The recording in the started event's snapshot is submitted on the application's parent, and
  this fails or succeeds. -/
  | submitted {c r : CaseReference} {get post : Outgoing} {started : StartedEvent}
      {parent : CaseRecord} {result : Except Failure Unit}
      (hc : child.reference = some c) (hr : child.parent = some r)
      (hget : s.startRequest r .updateParentState = .ok get)
      (hfirst : first.Gives StartedEvent.codec started)
      (hparent : started.snapshot.toRecord = .ok parent)
      (hpost : s.submitRequest r (started.update
        (parent.withApplicationState c state child.isUncloaked).toData) = .ok post)
      (hsecond : (∃ failure, result = .error failure ∧
          second.FailsWith CaseSnapshot.codec failure) ∨
        (result = .ok () ∧ ∃ snapshot, second.Gives CaseSnapshot.codec snapshot)) :
      UpdateCourse [get, post] result

end

namespace UpdateCourse
variable {s : PlatformSettings} {child : CaseRecord} {state : String} {first second : Reply}
  {sent : List Outgoing} {result : Except Failure Unit}

end UpdateCourse

section
variable {s : PlatformSettings} {child : CaseRecord} {state : String} {c r : CaseReference}
  {notify : CaseRecord → Exchange (Except String Unit)}

/-- The course of an update whose event has been started. -/
theorem course_of_started {replies : List Reply} {get : Outgoing} {started : StartedEvent}
    (hc : child.reference = some c) (hr : child.parent = some r)
    (hget : s.startRequest r .updateParentState = .ok get)
    (hfirst : (replies.headD Script.unscripted).Gives StartedEvent.codec started) :
    let run := Script.run replies.tail
      ((child.finishUpdate state c r (.ok started)).interpret (s.carryOut notify))
    UpdateCourse s child state (replies.headD Script.unscripted)
      (replies.tail.headD Script.unscripted) (get :: run.2) run.1 := by
  cases hparent : started.snapshot.toRecord with
  | error failure =>
    have hfinish : child.finishUpdate state c r (.ok started) = .done (.error failure) := by
      simp only [CaseRecord.finishUpdate, CaseSnapshot.recording, hparent]
      rfl
    rw [hfinish]
    exact .unreadable hc hr hget hfirst hparent (CaseSnapshot.of_toRecord_error hparent).1
  | ok parent =>
    generalize hcontent : started.update
      (parent.withApplicationState c state child.isUncloaked).toData = content
    obtain ⟨post, hpost⟩ := PlatformSettings.exists_submitRequest hget content
    have hrecording : started.snapshot.recording c state child.isUncloaked =
        .ok (parent.withApplicationState c state child.isUncloaked).toData :=
      CaseSnapshot.recording_eq_ok_iff.2 ⟨parent, hparent, rfl⟩
    have hfinish : child.finishUpdate state c r (.ok started) =
        .ask (.submit r content) fun outcome => .done (outcome.map fun _ => ()) := by
      rw [← hcontent]
      simp only [CaseRecord.finishUpdate, hrecording]
    have hrun : (child.finishUpdate state c r (.ok started)).interpret (s.carryOut notify) =
        (PlatformSettings.exchange CaseSnapshot.codec (.ok post)).bind fun outcome =>
          .done (outcome.map fun _ => ()) := by
      rw [hfinish, ← hpost, ← PlatformSettings.run_submit]
      rfl
    rw [hrun, PlatformSettings.run_exchange_ok]
    refine .submitted hc hr hget hfirst hparent (hcontent ▸ hpost) ?_
    cases hsecond : (replies.tail.headD Script.unscripted).read CaseSnapshot.codec post.url with
    | error failure => exact .inl ⟨failure, rfl, Reply.failsWith_of_read hsecond⟩
    | ok snapshot => exact .inr ⟨rfl, snapshot, Reply.read_eq_ok_iff.1 hsecond⟩

/-- Every run of an update takes one of the courses. -/
theorem CaseRecord.course_of_run (s : PlatformSettings)
    (notify : CaseRecord → Exchange (Except String Unit)) (child : CaseRecord) (state : String)
    (replies : List Reply) :
    let run := Script.run replies ((child.updateParent state).run.interpret (s.carryOut notify))
    UpdateCourse s child state (replies.headD Script.unscripted)
      (replies.tail.headD Script.unscripted) run.2 run.1 := by
  by_cases hunlinked : child.reference = none ∨ child.parent = none
  · obtain ⟨failure, hrun, hkind⟩ :=
      child.run_updateParent_of_unlinked state hunlinked
    rw [hrun]
    exact .unlinked hunlinked hkind
  · rw [not_or] at hunlinked
    obtain ⟨c, hc⟩ := Option.ne_none_iff_exists'.1 hunlinked.1
    obtain ⟨r, hr⟩ := Option.ne_none_iff_exists'.1 hunlinked.2
    have hrun : (child.updateParent state).run.interpret (s.carryOut notify) =
        (PlatformSettings.exchange StartedEvent.codec
          (s.startRequest r .updateParentState)).bind fun outcome =>
            (child.finishUpdate state c r outcome).interpret (s.carryOut notify) := by
      rw [CaseRecord.run_updateParent hc hr, ← PlatformSettings.run_start]
      rfl
    rw [hrun]
    cases hget : s.startRequest r .updateParentState with
    | error e => exact .unsent hc hr hget rfl
    | ok get =>
      rw [PlatformSettings.run_exchange_ok]
      cases hfirst : (replies.headD Script.unscripted).read StartedEvent.codec get.url with
      | error failure => exact .unstarted hc hr hget (Reply.failsWith_of_read hfirst)
      | ok started => exact course_of_started hc hr hget (Reply.read_eq_ok_iff.1 hfirst)

end

/-- A platform on this machine. -/
def localPlatform : PlatformSettings :=
  ⟨"http://127.0.0.1:4452", "user", "service"⟩

end GeneralApplications

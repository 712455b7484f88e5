import GeneralApplications.Proofs.Platform.Run
import GeneralApplications.Proofs.Service.Callback

/-!
# Sessions

A session is a run of requests, one after another, against the platform in memory: before a request
the parent case may be replaced from outside, and while it is answered errands may fail on purpose.
`Turn.Course` lists all that one request can lead to; `course_of_mem_log` says that every
turn of a session takes one of these courses.
-/

namespace GeneralApplications

open Json (Object)

/-- A request of a session and what surrounds it. -/
structure Visit where
  /-- The parent case that is put in place before the request. -/
  replacement : Option CaseSnapshot
  disruption : Disruption
  today : Date
  request : Http.Request

/-- A request with all that it leads to. -/
structure Turn where
  visit : Visit
  before : Platform
  response : Http.Response
  errands : List Errand
  after : Platform

/-- The platform that receives the request's errands. -/
def Visit.platform (v : Visit) (p : Platform) : Platform :=
  match v.replacement with
  | some s => { p with parent := some s }
  | none => p

/-- The request is answered. -/
def Visit.turn (v : Visit) (p : Platform) : Turn :=
  let result := (v.platform p).run v.disruption (Http.respond (.standard v.today) v.request)
  ⟨v, v.platform p, result.1, result.2.1, result.2.2⟩

namespace Session

/-- The requests of a session are answered one after another. -/
def log : Platform → List Visit → List Turn
  | _, [] => []
  | p, v :: visits => v.turn p :: log (v.turn p).after visits

/-- The platform after a session. -/
def after (p : Platform) (visits : List Visit) : Platform :=
  visits.foldl (fun p v => (v.turn p).after) p

end Session

/-! ## Courses -/

/-- The event that the platform starts for its `n`-th token. -/
def StartedEvent.ofParent (s : CaseSnapshot) (n : Nat) : StartedEvent :=
  ⟨Platform.token n, s, none⟩

/-- The turn is that of a callback that asks for an update, and starts the event for it. -/
structure Turn.Starts (x : Turn) (m : CallbackRequest) (child : CaseRecord) (state : String)
    (r : CaseReference) : Prop where
  callback : x.visit.request.IsCallback .aboutToSubmit .endJudgeProcess m
  asks : m.AsksUpdate child state r

/-- The turn submits the recording of `s` under the token it has just been given. -/
structure Turn.Submits (x : Turn) (m : CallbackRequest) (child : CaseRecord)
    (state : String) (r : CaseReference) (s : CaseSnapshot) (data : Object) : Prop
    extends x.Starts m child state r where
  parent : x.before.parent = some s
  recording : s.recording m.snapshot.id state child.isUncloaked = .ok data
  errands : x.errands =
    [.start r .updateParentState,
      .submit r ((StartedEvent.ofParent s (x.before.started + 1)).update data)]
  started : (x.before.carryOut x.visit.disruption (.start r .updateParentState)).1 =
    .ok (.ofParent s (x.before.started + 1))

/-- All that a request can lead to. -/
inductive Turn.Course (x : Turn) : Prop
  /-- Nothing is asked. -/
  | quiet (herrands : x.errands = []) (hafter : x.after = x.before)
  /-- The respondents are notified. -/
  | notified {m : CallbackRequest} {record : CaseRecord}
      (hm : x.visit.request.IsCallback .aboutToSubmit .startRespondentNotification m)
      (herrands : x.errands = [.notify record]) (hafter : x.after = x.before)
  /-- An update is started and given up: the platform refuses it, or its parent is unreadable. -/
  | abandoned {m : CallbackRequest} {child : CaseRecord} {state : String} {r : CaseReference}
      (h : x.Starts m child state r) (herrands : x.errands = [.start r .updateParentState])
      (hparent : x.after.parent = x.before.parent) (hstarted : x.before.started ≤ x.after.started)
  /-- An update is submitted and refused. -/
  | refused {m : CallbackRequest} {child : CaseRecord} {state : String} {r : CaseReference}
      {s : CaseSnapshot} {data : Object} (h : x.Submits m child state r s data)
      (hafter : x.after = ⟨some s, x.before.started + 1⟩)
  /-- An update is submitted and taken. -/
  | recorded {m : CallbackRequest} {child : CaseRecord} {state : String} {r : CaseReference}
      {s : CaseSnapshot} {data : Object} (h : x.Submits m child state r s data)
      (hstatus : x.response.status = 200)
      (hafter : x.after = ⟨some { s with data := data }, x.before.started + 1⟩)

/-- What comes of starting an event: a failure that changes nothing, or the platform's parent under
a fresh token. -/
theorem Platform.carryOut_start_cases (d : Disruption) (p : Platform) (r : CaseReference)
    (event : CaseEvent) :
    (∃ failure, p.carryOut d (.start r event) = (.error failure, p)) ∨
    ∃ s, p.parent = some s ∧ p.carryOut d (.start r event) =
      (.ok (.ofParent s (p.started + 1)), { p with started := p.started + 1 }) := by
  simp only [carryOut]
  cases d.start with
  | some failure => exact .inl ⟨failure, rfl⟩
  | none =>
    cases hp : p.parent with
    | none => exact .inl ⟨_, rfl⟩
    | some s => exact .inr ⟨s, rfl, rfl⟩

/-- What comes of a submission to a platform with a parent. -/
theorem Platform.carryOut_submit_cases (d : Disruption) {p : Platform} {s : CaseSnapshot}
    (hp : p.parent = some s) (r : CaseReference) (content : EventSubmission) :
    (∃ failure, p.carryOut d (.submit r content) = (.error failure, p)) ∨
    p.carryOut d (.submit r content) =
      (.ok { s with data := content.data }, p.store content.data) := by
  simp only [carryOut]
  cases d.submit with
  | some failure => exact .inl ⟨failure, rfl⟩
  | none =>
    rw [hp]
    exact .inr rfl

theorem Platform.carryOut_notify (d : Disruption) (p : Platform) (record : CaseRecord) :
    (p.carryOut d (.notify record)).2 = p := by
  simp only [carryOut]
  cases d.sender <;> rfl

/-- Every request takes one of the courses. -/
theorem Visit.course (v : Visit) (p : Platform) : (v.turn p).Course := by
  -- The run is taken apart along what the service asks.
  have hreaction := reaction_respond v.today v.request
  generalize hd : Http.respond (.standard v.today) v.request = d at hreaction
  have hx : v.turn p = ⟨v, v.platform p, ((v.platform p).run v.disruption d).1,
      ((v.platform p).run v.disruption d).2.1, ((v.platform p).run v.disruption d).2.2⟩ := by
    rw [Visit.turn, hd]
  rw [hx]
  generalize v.platform p = q
  cases hreaction with
  | answers answer => exact .quiet rfl rfl
  | notifies hm =>
    rw [Platform.run_ask]
    exact .notified hm rfl (q.carryOut_notify ..)
  | @updates m child state r hm h =>
    rw [Platform.run_ask]
    rcases q.carryOut_start_cases v.disruption r .updateParentState with
      ⟨failure, hstart⟩ | ⟨s, hs, hstart⟩
    · rw [hstart]
      exact .abandoned ⟨hm, h⟩ rfl rfl (Nat.le_refl _)
    · rw [hstart]
      simp only [CaseRecord.finishUpdate, StartedEvent.ofParent]
      cases hdata : s.recording m.snapshot.id state child.isUncloaked with
      | error failure => exact .abandoned ⟨hm, h⟩ rfl rfl (Nat.le_succ _)
      | ok data =>
        have hsubmits {response : Http.Response} {after : Platform} :
            Turn.Submits ⟨v, q, response, [.start r .updateParentState,
              .submit r ((StartedEvent.ofParent s (q.started + 1)).update data)], after⟩
              m child state r s data :=
          ⟨⟨hm, h⟩, hs, hdata, rfl, by rw [hstart]⟩
        have hsubmit := Platform.carryOut_submit_cases v.disruption
          (p := { q with started := q.started + 1 }) hs r
          ((StartedEvent.ofParent s (q.started + 1)).update data)
        simp only [StartedEvent.ofParent] at hsubmit
        simp only [Functor.map, Dialogue.bind, Platform.run_ask]
        rcases hsubmit with ⟨failure, hsubmit⟩ | hsubmit
        · refine .refused hsubmits ?_
          rw [hsubmit, ← hs]
          rfl
        · refine .recorded hsubmits ?_ ?_
          · rw [hsubmit]
            rfl
          · rw [hsubmit, Platform.store, hs]
            rfl

theorem course_of_mem_log {p : Platform} {visits : List Visit} {x : Turn}
    (h : x ∈ Session.log p visits) : x.Course := by
  induction visits generalizing p with
  | nil => cases h
  | cons v visits ih =>
    rcases List.mem_cons.1 h with rfl | h
    · exact v.course p
    · exact ih h

end GeneralApplications

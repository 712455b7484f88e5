import GeneralApplications.Api.Service
import GeneralApplications.Proofs.Service.Metadata
import GeneralApplications.Proofs.Update.OverHttp

/-!
# The published contract of a callback

The description of the API declares the statuses of a callback's answer, and 404 among them for an
event that has no handler. Against a platform that is reached over HTTP there are three exceptions
to this (`ContractBreach`). An update of the parent case whose last request the platform refuses
with 401, 403 or 404 is answered with that status (`Http.Reply.Refuses`): the first two are not
declared, and the third is declared for another case. The other two are a body that is not read at
all, since it is not announced as JSON or is too large: the answer is 415 or 413.
`respond_keeps_contract_iff` says that there are no more, for any settings, sender and replies.

Every other failure on the way to a handler has a declared status, and so has every result of a
handler that asks nothing of the platform. What is left is an update, and its courses are known
(`UpdateCourse`): the kind of its failure is read from the reply that ended it.
-/

namespace GeneralApplications

open Http
open Http (Reply Script Outgoing Exchange)

/-! ## Refusals -/

/-- The reply refuses a request with a status that becomes the status of the callback's answer. -/
def Http.Reply.Refuses (reply : Reply) (status : Nat) : Prop :=
  status ∈ [401, 403, 404] ∧ ∃ body, reply = .answered status body

/-- The reply to the last of the requests that were sent, if there was one. -/
def Http.Script.lastReply? (replies : List Reply) : List Outgoing → Option Reply
  | [] => none
  | _ :: later => some (replies.getD later.length unscripted)

namespace Http.Reply

variable {α : Type} {c : Json.Codec Json.Document α} {reply : Reply}

/-- A success refuses nothing. -/
theorem not_refuses_of_isSuccess {given : Nat} {body : Option String}
    (h : isSuccess given = true) (status : Nat) : ¬ (answered given body).Refuses status := by
  rintro ⟨hstatus, body', hreply⟩
  obtain ⟨rfl, -⟩ := answered.inj hreply
  simp only [List.mem_cons, List.not_mem_nil, or_false] at hstatus
  rcases hstatus with rfl | rfl | rfl <;> exact absurd h (by decide)

theorem Gives.not_refuses {a : α} (h : reply.Gives c a) (status : Nat) :
    ¬ reply.Refuses status := by
  obtain ⟨given, text, rfl, hsuccess, -⟩ := h
  exact not_refuses_of_isSuccess hsuccess status

/-- A request fails with the status of its refusal, or it is the platform that has failed. -/
theorem FailsWith.status_cases {failure : Failure} (h : reply.FailsWith c failure) :
    reply.Refuses failure.kind.status ∨
      (failure.kind = .platformFailure ∧ ∀ status, ¬ reply.Refuses status) := by
  cases h with
  | unanswered h hkind =>
    refine .inr ⟨hkind, ?_⟩
    rintro status ⟨-, body, rfl⟩
    rcases h with h | h <;> cases h
  | @refused given body _ h hkind hcause =>
    by_cases hpassed : given ∈ [401, 403, 404]
    · have hstatus : failure.kind.status = given := by
        simp only [List.mem_cons, List.not_mem_nil, or_false] at hpassed
        rw [hkind]
        rcases hpassed with rfl | rfl | rfl <;> rfl
      rw [hstatus]
      exact .inl ⟨hpassed, body, rfl⟩
    · have hkind : failure.kind = .platformFailure := by
        simp only [List.mem_cons, List.not_mem_nil, or_false, not_or] at hpassed
        rw [hkind, if_neg hpassed.1, if_neg hpassed.2.1, if_neg hpassed.2.2]
      refine .inr ⟨hkind, ?_⟩
      rintro status ⟨hstatus, body', hreply⟩
      obtain ⟨rfl, -⟩ := answered.inj hreply
      exact hpassed hstatus
  | truncated h hkind => exact .inr ⟨hkind, not_refuses_of_isSuccess h⟩
  | undecodable h hread hkind => exact .inr ⟨hkind, not_refuses_of_isSuccess h⟩

end Http.Reply

/-- The last request of a run is refused with a status. -/
def Http.Script.EndsRefused (replies : List Reply) (sent : List Outgoing) (status : Nat) : Prop :=
  ∃ reply, lastReply? replies sent = some reply ∧ reply.Refuses status

section
variable {replies : List Reply} {status : Nat}

theorem not_endsRefused_nil (status : Nat) :
    ¬ Script.EndsRefused replies [] status := by
  rintro ⟨reply, hreply, -⟩
  cases hreply

theorem endsRefused_one {a : Outgoing} : Script.EndsRefused replies [a] status ↔
    (replies.headD Script.unscripted).Refuses status := by
  have hlast : Script.lastReply? replies [a] = some (replies.headD Script.unscripted) := by
    cases replies <;> rfl
  unfold Script.EndsRefused
  rw [hlast]
  simp only [Option.some.injEq, exists_eq_left']

theorem endsRefused_two {a b : Outgoing} : Script.EndsRefused replies [a, b] status ↔
    (replies.tail.headD Script.unscripted).Refuses status := by
  have hlast : Script.lastReply? replies [a, b] =
      some (replies.tail.headD Script.unscripted) := by
    rcases replies with _ | ⟨_, _ | ⟨_, _⟩⟩ <;> rfl
  unfold Script.EndsRefused
  rw [hlast]
  simp only [Option.some.injEq, exists_eq_left']

/-- What ends an update: the refusal of its last request, or something else. -/
theorem UpdateCourse.status_cases {s : PlatformSettings} {child : CaseRecord} {state : String}
    {sent : List Outgoing} {result : Except Failure Unit}
    (h : UpdateCourse s child state (replies.headD Script.unscripted)
      (replies.tail.headD Script.unscripted) sent result) :
    (∃ failure, result = .error failure ∧
      Script.EndsRefused replies sent failure.kind.status) ∨
    ((∀ status, ¬ Script.EndsRefused replies sent status) ∧
      ∀ failure, result = .error failure → failure.kind ∈ [.badRequest, .platformFailure]) := by
  cases h with
  | unlinked h hkind => exact .inr ⟨not_endsRefused_nil, by rintro _ ⟨⟩; simp [hkind]⟩
  | unsent hc hr hget hkind => exact .inr ⟨not_endsRefused_nil, by rintro _ ⟨⟩; simp [hkind]⟩
  | unstarted hc hr hget hfails =>
    simp only [endsRefused_one]
    rcases hfails.status_cases with hrefuses | ⟨hkind, hnot⟩
    · exact .inl ⟨_, rfl, hrefuses⟩
    · exact .inr ⟨hnot, by rintro _ ⟨⟩; simp [hkind]⟩
  | unreadable hc hr hget hgives hparent hkind =>
    simp only [endsRefused_one]
    exact .inr ⟨hgives.not_refuses, by rintro _ ⟨⟩; simp [hkind]⟩
  | submitted hc hr hget hgives hparent hpost hends =>
    simp only [endsRefused_two]
    rcases hends with ⟨failure, rfl, hfails⟩ | ⟨rfl, snapshot, hgives⟩
    · rcases hfails.status_cases with hrefuses | ⟨hkind, hnot⟩
      · exact .inl ⟨_, rfl, hrefuses⟩
      · exact .inr ⟨hnot, by rintro _ ⟨⟩; simp [hkind]⟩
    · exact .inr ⟨hgives.not_refuses, nofun⟩

end

/-! ## Handlers over HTTP -/

section
variable {α β : Type}

theorem Http.Script.run_map (f : α → β) (m : Exchange α) (replies : List Reply) :
    run replies (f <$> m) = (f (run replies m).1, (run replies m).2) := by
  induction m generalizing replies with
  | done a => rfl
  | ask r next ih =>
    have hmap : f <$> (Dialogue.ask r next : Exchange α) = .ask r fun reply => f <$> next reply :=
      rfl
    rw [hmap, run_ask, run_ask, ih]

theorem Dialogue.interpret_map {Q : Type} {A : Q → Type} {m : Type → Type} [Monad m] [LawfulMonad m]
    (answer : (q : Q) → m (A q)) (f : α → β) (d : Dialogue Q A α) :
    (f <$> d).interpret answer = f <$> d.interpret answer := by
  have hbind : f <$> d = d.bind fun a => .done (f a) := rfl
  rw [hbind, interpret_bind, map_eq_pure_bind]
  rfl

end

section
variable (s : PlatformSettings) (notify : CaseRecord → Exchange (Except String Unit))
  (replies : List Reply)

/-- The answer to a callback that was to update the parent case, and the requests that were sent. -/
theorem run_endOfProcess_status {c : Callback} (hstage : c.stage = .aboutToSubmit) :
    let run := Script.run replies
      ((ofOutcome <$> (CallbackHandler.endOfProcess.handle c).run).interpret (s.carryOut notify))
    Script.EndsRefused replies run.2 run.1.status ∨
      (run.1.status ∈ [200, 400, 502] ∧ ∀ status, ¬ Script.EndsRefused replies run.2 status) := by
  intro run
  cases hstate : c.request.snapshot.state with
  | none =>
    have hrun : run =
        (ofFailure (.of .badRequest "Application has no state to propagate"), []) := by
      simp only [run, CallbackHandler.endOfProcess, hstage, hstate]
      rfl
    rw [hrun]
    exact .inr ⟨by decide, not_endsRefused_nil⟩
  | some state =>
    have hrun : run = (afterUpdate c.request (Script.run replies
        ((c.record.updateParent state).run.interpret (s.carryOut notify))).1,
        (Script.run replies
          ((c.record.updateParent state).run.interpret (s.carryOut notify))).2) := by
      rw [← Script.run_map, ← Dialogue.interpret_map]
      simp only [run, CallbackHandler.endOfProcess, hstage, hstate, Procedure.require, pure_bind]
      rw [run_bind_pure, ← comp_map]
      rfl
    have course := CaseRecord.course_of_run s notify c.record state replies
    rw [hrun]
    generalize Script.run replies
      ((c.record.updateParent state).run.interpret (s.carryOut notify)) = update at course
    obtain ⟨result, sent⟩ := update
    rcases course.status_cases with ⟨failure, hresult, hrefused⟩ | ⟨hnot, hkind⟩
    · have hresult : result = .error failure := hresult
      subst hresult
      exact .inl hrefused
    · refine .inr ⟨?_, hnot⟩
      cases result with
      | ok u => simp [afterUpdate, ofOutcome, Except.map, Response.json]
      | error failure =>
        have hkind := hkind failure rfl
        simp only [List.mem_cons, List.not_mem_nil, or_false] at hkind
        show failure.kind.status ∈ _
        rcases hkind with hkind | hkind <;> rw [hkind] <;> decide

/-- The answer to a callback that was to notify the respondents. -/
theorem run_respondentNotification_status {c : Callback} (hstage : c.stage = .aboutToSubmit) :
    (Script.run replies
      ((ofOutcome <$> (CallbackHandler.respondentNotification.handle c).run).interpret
        (s.carryOut notify))).1.status ∈ [200, 400, 502] := by
  have hrun : (ofOutcome <$> (CallbackHandler.respondentNotification.handle c).run).interpret
      (s.carryOut notify) = afterNotify c.request <$> notify c.record := by
    rw [run_respondentNotification hstage, map_eq_pure_bind]
    rfl
  rw [hrun, Script.run_map]
  cases (Script.run replies (notify c.record)).1 with
  | ok u => exact .head _
  | error e => exact .tail _ (.tail _ (.head _))

/-- A handler answers with a refusal of the platform if it updates the parent case, else with a
declared status other than 404. -/
theorem run_handle_status {today : Date} {h : CallbackHandler} (hh : h ∈ CallbackHandler.all today)
    (c : Callback) :
    let run := Script.run replies ((ofOutcome <$> (h.handle c).run).interpret (s.carryOut notify))
    (h = .endOfProcess ∧ c.stage = .aboutToSubmit ∧
        Script.EndsRefused replies run.2 run.1.status) ∨
      (run.1.status ∈ [200, 400, 502] ∧ (h = .endOfProcess → c.stage = .aboutToSubmit →
        ∀ status, ¬ Script.EndsRefused replies run.2 status)) := by
  rcases CallbackHandler.mem_all_iff.1 hh with rfl | rfl | rfl
  · refine .inr ⟨?_, fun hend => by cases hend⟩
    cases hstage : c.stage with
    | aboutToSubmit => exact run_respondentNotification_status s notify replies hstage
    | aboutToStart | mid | submitted =>
      simp only [CallbackHandler.respondentNotification, hstage]
      exact .head _
  · refine .inr ⟨?_, fun hend => by cases hend⟩
    simp only [CallbackHandler.decisionPage]
    cases c.stage <;> exact .head _
  · cases hstage : c.stage with
    | aboutToSubmit =>
      rcases run_endOfProcess_status s notify replies hstage with hrefused | ⟨hstatus, hnot⟩
      · exact .inl ⟨rfl, rfl, hrefused⟩
      · exact .inr ⟨hstatus, fun _ _ => hnot⟩
    | aboutToStart | mid | submitted =>
      refine .inr ⟨?_, fun _ hsubmit => by cases hsubmit⟩
      simp only [CallbackHandler.endOfProcess, hstage]
      exact .head _

end

/-! ## The contract -/

/-- The request is one to the path of callbacks, and its body is the text of a callback. -/
structure Http.Request.Delivers (r : Request) (segment : List Char) (m : CallbackRequest) :
    Prop where
  route : Route.ofPath (path r.target) = .callback segment
  method : r.method = "POST"
  message : r.reading = .ok m

/-- The answer keeps to what is published: its status is one of those that are declared, and it is
404 only for an event that has no handler. -/
structure Http.Response.KeepsContract (answer : Response) (registry : CallbackRegistry)
    (eventId : String) : Prop where
  declared : Api.callbackOperation.declares answer.status = true
  unhandled : answer.status = 404 → registry.handlerFor? eventId = none

/-- The callback asks for an update of the parent case, and the platform refuses the last request of
it with a status. -/
structure CallbackRequest.IsRefused (m : CallbackRequest) (segment : List Char)
    (replies : List Reply) (sent : List Outgoing) (status : Nat) : Prop where
  stage : decodePart? (String.ofList segment) = some CallbackStage.aboutToSubmit.name
  event : m.eventId = CaseEvent.endJudgeProcess.name
  refused : Script.EndsRefused replies sent status

/-- What makes an answer break the contract, with the status of the answer. -/
inductive ContractBreach (r : Request) (segment : List Char) (m : CallbackRequest)
    (replies : List Reply) (sent : List Outgoing) : Nat → Prop
  /-- The body is not read, as it is not announced as JSON. -/
  | mediaType (first : Obstacle.mediaType.IsFirst r segment) :
      ContractBreach r segment m replies sent 415
  /-- The body is not read, as it is too large. -/
  | size (first : Obstacle.size.IsFirst r segment) : ContractBreach r segment m replies sent 413
  /-- The platform refuses the last request of an update. -/
  | refusal {status : Nat} (refused : m.IsRefused segment replies sent status) :
      ContractBreach r segment m replies sent status

section
variable {today : Date} {r : Request} {segment : List Char} {m : CallbackRequest}

theorem CallbackRequest.IsRefused.unique {replies : List Reply} {sent : List Outgoing}
    {a b : Nat} (ha : m.IsRefused segment replies sent a)
    (hb : m.IsRefused segment replies sent b) : a = b := by
  obtain ⟨reply, hreply, -, body, rfl⟩ := ha.refused
  obtain ⟨reply', hreply', -, body', rfl⟩ := hb.refused
  exact (Reply.answered.inj (Option.some.inj (hreply.symm.trans hreply'))).1

/-- An event that is not handled has no handler. -/
theorem handlerFor?_eq_none {eventId : String} (h : ∀ e ∈ handledEvents, eventId ≠ e.name) :
    (CallbackRegistry.standard today).handlerFor? eventId = none := by
  rcases handlerFor?_cases today eventId with ⟨hnone, -⟩ | ⟨a, e, -, ha, he, hname⟩
  · exact hnone
  · exact absurd hname (h e (mem_handledEvents ha he))

/-- Without a request to the platform, it is the body that was not read. -/
theorem ContractBreach.unread {replies : List Reply} {status : Nat}
    (h : ContractBreach r segment m replies [] status) :
    (Obstacle.mediaType.IsFirst r segment ∧ status = 415) ∨
      (Obstacle.size.IsFirst r segment ∧ status = 413) := by
  cases h with
  | mediaType first => exact .inl ⟨first, rfl⟩
  | size first => exact .inr ⟨first, rfl⟩
  | refusal refused => exact absurd refused.refused (not_endsRefused_nil status)

/-- The answer that tells of an obstacle breaks the contract only where it is said to. -/
theorem Http.Request.Delivers.obstacle_status (hr : r.Delivers segment m) {o : Obstacle}
    {answer : Response} (hfirst : o.IsFirst r segment) (hanswers : o.Answers r segment answer)
    (replies : List Reply) :
    (∀ status, ContractBreach r segment m replies [] status → answer.status = status) ∧
      ((∃ status, ContractBreach r segment m replies [] status) ∨ answer.status = 400 ∨
        (answer.status = 404 ∧
          (CallbackRegistry.standard today).handlerFor? m.eventId = none)) := by
  constructor
  · intro status hbreach
    rcases hbreach.unread with ⟨hunread, rfl⟩ | ⟨hunread, rfl⟩
    all_goals
      obtain rfl := hunread.unique hfirst
      have hanswer : answer = _ := hanswers
      rw [hanswer]
      rfl
  · cases o with
    | mediaType => exact .inl ⟨415, .mediaType hfirst⟩
    | size => exact .inl ⟨413, .size hfirst⟩
    | segment =>
      have hanswer : answer = _ := hanswers
      rw [hanswer]
      exact .inr (.inl rfl)
    | body =>
      obtain ⟨rejection, hrejection⟩ := hfirst.blocks
      cases hrejection.symm.trans hr.message
    | stage =>
      obtain ⟨name, -, hreports⟩ := hanswers
      exact .inr (.inl hreports.status)
    | event =>
      obtain ⟨m', hm', hunhandled⟩ := hfirst.blocks
      obtain ⟨_, -, hreports⟩ := hanswers
      obtain rfl := Except.ok.inj (hm'.symm.trans hr.message)
      exact .inr (.inr ⟨hreports.status, handlerFor?_eq_none hunhandled⟩)
    | data =>
      obtain ⟨cause, hreports⟩ := hanswers
      exact .inr (.inl hreports.status)

/-- A callback that is handled for the end of the process is handled by its handler. -/
theorem Http.Request.Reaches.eq_endOfProcess {c : Callback} {h : CallbackHandler}
    (hr : r.Reaches today segment c h) :
    h = .endOfProcess ↔ c.request.eventId = CaseEvent.endJudgeProcess.name := by
  obtain ⟨e, he, hname⟩ := hr.event
  rw [hname]
  constructor
  · rintro rfl
    rw [List.mem_singleton.1 he]
  · intro hsame
    obtain rfl := CaseEvent.name_injective hsame
    rcases CallbackHandler.mem_all_iff.1 hr.handler with rfl | rfl | rfl
    · exact absurd (List.mem_singleton.1 he) nofun
    · exact absurd (List.mem_singleton.1 he) nofun
    · rfl

/-- The answer to a callback, beside what breaks its contract. -/
theorem run_respond_status (s : PlatformSettings)
    (notify : CaseRecord → Exchange (Except String Unit)) (replies : List Reply) (today : Date)
    (hr : r.Delivers segment m) :
    let run := Script.run replies ((respond (.standard today) r).interpret (s.carryOut notify))
    (∀ status, ContractBreach r segment m replies run.2 status → run.1.status = status) ∧
      ((∃ status, ContractBreach r segment m replies run.2 status) ∨
        run.1.status ∈ [200, 400, 502] ∨ (run.1.status = 404 ∧
          (CallbackRegistry.standard today).handlerFor? m.eventId = none)) := by
  intro run
  rcases respond_cases today hr.route hr.method with
    ⟨o, hfirst, answer, hanswers, hrespond⟩ | ⟨c, h, hreaches, hrespond⟩
  · have hrun : run = (answer, []) := by
      simp only [run, hrespond]
      rfl
    rw [hrun]
    obtain ⟨hsame, hcases⟩ := hr.obstacle_status hfirst hanswers replies
    refine ⟨hsame, hcases.imp_right (Or.imp_left fun hstatus => ?_)⟩
    simp [hstatus]
  · obtain rfl := Except.ok.inj (hreaches.message.symm.trans hr.message)
    have hstatus := run_handle_status s notify replies hreaches.handler c
    rw [← hrespond] at hstatus
    rcases hstatus with ⟨hh, hstage, hrefused⟩ | ⟨hstatus, hnot⟩
    · have hrefusal : c.request.IsRefused segment replies run.2 run.1.status :=
        ⟨by rw [hreaches.segment, hstage], hreaches.eq_endOfProcess.1 hh, hrefused⟩
      refine ⟨fun status hbreach => ?_, .inl ⟨_, .refusal hrefusal⟩⟩
      cases hbreach with
      | mediaType first => exact absurd first.blocks (hreaches.not_blocks _)
      | size first => exact absurd first.blocks (hreaches.not_blocks _)
      | refusal refused => exact hrefusal.unique refused
    · refine ⟨fun status hbreach => ?_, .inr (.inl hstatus)⟩
      cases hbreach with
      | mediaType first => exact absurd first.blocks (hreaches.not_blocks _)
      | size first => exact absurd first.blocks (hreaches.not_blocks _)
      | refusal refused =>
        have hname := Option.some.inj (hreaches.segment.symm.trans refused.stage)
        have hstage : c.stage = .aboutToSubmit := by
          have hsome := CallbackStage.ofName?_eq_some_iff.2 hname
          exact Option.some.inj (hsome.symm.trans (CallbackStage.ofName?_eq_some_iff.2 rfl))
        exact absurd refused.refused
          (hnot (hreaches.eq_endOfProcess.2 refused.event) hstage status)

/-- A status that breaks the contract is not in it. -/
theorem ContractBreach.not_keepsContract {replies : List Reply} {sent : List Outgoing}
    {answer : Response} (h : ContractBreach r segment m replies sent answer.status) :
    ¬ answer.KeepsContract (.standard today) m.eventId := by
  intro hkeeps
  have hdeclared := hkeeps.declared
  generalize hstatus : answer.status = status at h hdeclared
  cases h with
  | mediaType first => exact absurd hdeclared (by decide)
  | size first => exact absurd hdeclared (by decide)
  | refusal refused =>
    obtain ⟨-, -, hpassed, -⟩ := refused.refused
    simp only [List.mem_cons, List.not_mem_nil, or_false] at hpassed
    rcases hpassed with rfl | rfl | rfl
    · exact absurd hdeclared (by decide)
    · exact absurd hdeclared (by decide)
    · have hnone := hkeeps.unhandled hstatus
      rw [refused.event] at hnone
      have hsome : (CallbackRegistry.standard today).handlerFor? CaseEvent.endJudgeProcess.name =
          some .endOfProcess := rfl
      cases hnone.symm.trans hsome

end

/-- A callback keeps its contract, whatever the platform replies and the sender does, with three
exceptions: its body is not announced as JSON, its body is too large, or the platform refuses the
last request of an update with 401, 403 or 404. Then the answer has the status 415, 413 or that of
the refusal. -/
theorem respond_keeps_contract_iff (s : PlatformSettings)
    (notify : CaseRecord → Exchange (Except String Unit)) (replies : List Reply) (today : Date)
    {r : Request} {segment : List Char} {m : CallbackRequest} (hr : r.Delivers segment m) :
    let run := Script.run replies ((respond (.standard today) r).interpret (s.carryOut notify))
    (run.1.KeepsContract (.standard today) m.eventId ↔
        ∀ status, ¬ ContractBreach r segment m replies run.2 status) ∧
      ∀ status, ContractBreach r segment m replies run.2 status → run.1.status = status := by
  intro run
  obtain ⟨hsame, hcases⟩ := run_respond_status s notify replies today hr
  refine ⟨⟨fun hkeeps status hbreach => ?_, fun hnot => ?_⟩, hsame⟩
  · have hstatus : run.1.status = status := hsame status hbreach
    rw [← hstatus] at hbreach
    exact hbreach.not_keepsContract hkeeps
  · rcases hcases with ⟨status, hbreach⟩ | hstatus | ⟨hstatus, hnone⟩
    · exact absurd hbreach (hnot status)
    · simp only [List.mem_cons, List.not_mem_nil, or_false] at hstatus
      rcases hstatus with hstatus | hstatus | hstatus <;>
        exact ⟨by rw [hstatus]; decide, by rw [hstatus]; nofun⟩
    · exact ⟨by rw [hstatus]; decide, fun _ => hnone⟩

/-- The end of the process on an application can be read. -/
theorem reads_endOfProcess : (endOfProcessWith "").Reads "about-to-submit".toList
    "about-to-submit" (endOfProcessMessage []) where
  segment := decodePart?_eq_self (by decide)
  mediaType := by decide +kernel
  size := by decide +kernel
  message := by decide +kernel

theorem delivers_endOfProcess :
    (endOfProcessWith "").Delivers "about-to-submit".toList (endOfProcessMessage []) where
  route := by decide +kernel
  method := rfl
  message := reads_endOfProcess.message

theorem respond_endOfProcess (today : Date) : respond (.standard today) (endOfProcessWith "") =
    ofOutcome <$> (callback (.standard today) "about-to-submit" (endOfProcessMessage [])).run := by
  have hread := readCallback_eq "about-to-submit".toList (endOfProcessWith "")
  rw [reads_endOfProcess.segment, reads_endOfProcess.message] at hread
  simp only [reads_endOfProcess.mediaType, if_true,
    if_neg (Nat.not_lt.2 reads_endOfProcess.size)] at hread
  rw [respond_of_callback today delivers_endOfProcess.route rfl, hread]

/-- An update that the platform does not answer keeps the contract. -/
theorem respond_keeps_contract_unanswered :
    let run := Script.run [.dropped]
      ((respond (.standard ⟨2024, 1, 1, by decide⟩) (endOfProcessWith "")).interpret
        (localPlatform.carryOut fun _ => pure (.ok ())))
    run.2.length = 1 ∧
      run.1.KeepsContract (.standard ⟨2024, 1, 1, by decide⟩) (endOfProcessMessage []).eventId := by
  intro run
  have hlength : run.2.length = 1 := by
    simp only [run, respond_endOfProcess]
    decide +kernel
  refine ⟨hlength, ?_⟩
  refine (respond_keeps_contract_iff localPlatform (fun _ => pure (.ok ())) [.dropped] _
    delivers_endOfProcess).1.2 fun status hbreach => ?_
  cases hbreach with
  | mediaType first =>
    have hunread : announcesJson (endOfProcessWith "").contentType = false := first.blocks
    rw [reads_endOfProcess.mediaType] at hunread
    cases hunread
  | size first => exact absurd reads_endOfProcess.size (Nat.not_le.2 first.blocks)
  | refusal refused =>
    obtain ⟨a, ha⟩ := List.length_eq_one_iff.1 hlength
    have hrefuses := refused.refused
    rw [show _ = [a] from ha, endsRefused_one] at hrefuses
    obtain ⟨-, body, hreply⟩ := hrefuses
    cases hreply

/-- An update that the platform refuses with 401 is answered with that status, which is not
declared, and one that it refuses with 404 as if its event had no handler. -/
theorem respond_breaks_contract :
    let m := endOfProcessMessage []
    let registry := CallbackRegistry.standard ⟨2024, 1, 1, by decide⟩
    let answer (status : Nat) := (Script.run [.answered status (some "")]
      ((respond registry (endOfProcessWith "")).interpret
        (localPlatform.carryOut fun _ => pure (.ok ())))).1
    (endOfProcessWith "").Delivers "about-to-submit".toList m ∧
      Api.callbackOperation.declares (answer 401).status = false ∧
      (answer 404).status = 404 ∧ registry.handlerFor? m.eventId ≠ none ∧
      ¬ (answer 401).KeepsContract registry m.eventId ∧
      ¬ (answer 404).KeepsContract registry m.eventId := by
  intro m registry answer
  have hrun : ∀ status, (answer status).status = ((Script.run [.answered status (some "")]
      ((ofOutcome <$> (callback registry "about-to-submit" m).run).interpret
        (localPlatform.carryOut fun _ => pure (.ok ())))).1).status := by
    intro status
    simp only [answer, registry, respond_endOfProcess, m]
  have h401 : Api.callbackOperation.declares (answer 401).status = false := by
    rw [hrun]
    decide +kernel
  have h404 : (answer 404).status = 404 := by
    rw [hrun]
    decide +kernel
  have hhandled : registry.handlerFor? m.eventId ≠ none :=
    Option.ne_none_iff_exists'.2 ⟨_, rfl⟩
  refine ⟨delivers_endOfProcess, h401, h404, hhandled, fun hkeeps => ?_, fun hkeeps => ?_⟩
  · rw [hkeeps.declared] at h401
    cases h401
  · exact hhandled (hkeeps.unhandled h404)

end GeneralApplications

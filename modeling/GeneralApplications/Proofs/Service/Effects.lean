import GeneralApplications.Proofs.Service.Session

/-!
# The effects of a session

What the requests of a session make the service ask, and when the parent case changes: at most one
update or one notification a request, each only for its callback, and the parent is another one
only after an update that was submitted and answered with success (`session_effects`). Tokens come
from a counter that only goes up, so that none is submitted twice.
-/

namespace GeneralApplications

/-! ## Tokens -/

theorem Platform.token_injective {m n : Nat} (h : token m = token n) : m = n := by
  have hd : Nat.toDigits 10 m = Nat.toDigits 10 n := by
    simpa [token] using congrArg String.toList h
  simpa using congrArg (Nat.ofDigitChars 10 · 0) hd

/-- The tokens that are submitted in some turns, in order. -/
def submittedTokens (turns : List Turn) : List String :=
  turns.flatMap fun x => x.errands.filterMap fun
    | .submit _ content => some content.token
    | .start _ _ | .notify _ => none

/-- A turn submits no token, and the count of tokens does not go down, or it submits the next one
and counts it. -/
theorem Turn.Course.tokens {x : Turn} (h : x.Course) :
    (submittedTokens [x] = [] ∧ x.before.started ≤ x.after.started) ∨
    (submittedTokens [x] = [Platform.token (x.before.started + 1)] ∧
      x.after.started = x.before.started + 1) := by
  cases h with
  | quiet herrands hafter => exact .inl ⟨by simp [submittedTokens, herrands], by simp [hafter]⟩
  | notified hm herrands hafter =>
    exact .inl ⟨by simp [submittedTokens, herrands], by simp [hafter]⟩
  | abandoned h herrands hparent hstarted =>
    exact .inl ⟨by simp [submittedTokens, herrands], hstarted⟩
  | refused h hafter =>
    refine .inr ⟨?_, by rw [hafter]⟩
    simp [submittedTokens, h.errands, StartedEvent.update, StartedEvent.ofParent]
  | recorded h hstatus hafter =>
    refine .inr ⟨?_, by rw [hafter]⟩
    simp [submittedTokens, h.errands, StartedEvent.update, StartedEvent.ofParent]

theorem Visit.started_platform (v : Visit) (p : Platform) :
    (v.platform p).started = p.started := by
  unfold platform
  split <;> rfl

theorem submittedTokens_log_cons (p : Platform) (v : Visit) (visits : List Visit) :
    submittedTokens (Session.log p (v :: visits)) =
      submittedTokens [v.turn p] ++ submittedTokens (Session.log (v.turn p).after visits) := by
  simp [submittedTokens, Session.log]

/-- The tokens of a session are issued in it, one after another. -/
theorem tokens_of_session (p : Platform) (visits : List Visit) :
    (∀ t ∈ submittedTokens (Session.log p visits), ∃ n, p.started < n ∧ t = Platform.token n) ∧
      (submittedTokens (Session.log p visits)).Nodup := by
  induction visits generalizing p with
  | nil => simp [Session.log, submittedTokens]
  | cons v visits ih =>
    obtain ⟨hissued, hnodup⟩ := ih (v.turn p).after
    have hbefore : (v.turn p).before.started = p.started := v.started_platform p
    rw [submittedTokens_log_cons]
    rcases (v.course p).tokens with ⟨hnone, hle⟩ | ⟨hone, hnext⟩
    · rw [hnone, List.nil_append]
      refine ⟨fun t ht => ?_, hnodup⟩
      obtain ⟨n, hn, rfl⟩ := hissued t ht
      exact ⟨n, by omega, rfl⟩
    · rw [hone, List.singleton_append, List.nodup_cons]
      refine ⟨List.forall_mem_cons.2 ⟨⟨_, by omega, rfl⟩, fun t ht => ?_⟩, fun hmem => ?_, hnodup⟩
      · obtain ⟨n, hn, rfl⟩ := hissued t ht
        exact ⟨n, by omega, rfl⟩
      · obtain ⟨n, hn, htoken⟩ := hissued _ hmem
        have := Platform.token_injective htoken
        omega

/-! ## Errands and the parent case -/

/-- What a request asks of others, and what it does to the parent case. -/
structure Turn.Effects (x : Turn) : Prop where
  /-- There are four kinds of errands. -/
  kinds : x.errands = [] ∨ (∃ record, x.errands = [.notify record]) ∨
    (∃ r, x.errands = [.start r .updateParentState]) ∨
    ∃ r content, x.errands = [.start r .updateParentState, .submit r content]
  /-- Respondents are notified only for the callback for that. -/
  notifies : ∀ record, .notify record ∈ x.errands →
    ∃ m, x.visit.request.IsCallback .aboutToSubmit .startRespondentNotification m
  /-- An update is started only for a callback that asks for one, on the parent of its link. -/
  starts : ∀ r event, .start r event ∈ x.errands →
    ∃ m child state, x.visit.request.IsCallback .aboutToSubmit .endJudgeProcess m ∧
      m.AsksUpdate child state r
  /-- What is submitted goes to the case that was started on, and carries the token that this
  start was answered with. -/
  submits : ∀ r content, .submit r content ∈ x.errands →
    x.errands = [.start r .updateParentState, .submit r content] ∧
      ∃ started, (x.before.carryOut x.visit.disruption (.start r .updateParentState)).1 =
        .ok started ∧ content.token = started.token
  /-- The parent case is another one only after success with both steps of an update. -/
  changes : x.after.parent ≠ x.before.parent → x.response.status = 200 ∧
    ∃ r content, x.errands = [.start r .updateParentState, .submit r content]

/-- Both steps of an update are as they should be. -/
theorem Turn.Submits.effects {x : Turn} {m : CallbackRequest} {child : CaseRecord} {state : String}
    {r : CaseReference} {s : CaseSnapshot} {data : Json.Object}
    (h : x.Submits m child state r s data)
    (hstatus : x.after.parent = x.before.parent ∨ x.response.status = 200) : x.Effects where
  kinds := .inr (.inr (.inr ⟨r, _, h.errands⟩))
  notifies record hmem := by simp [h.errands] at hmem
  starts r' event hmem := by
    obtain ⟨rfl, -⟩ : r' = r ∧ event = .updateParentState := by simpa [h.errands] using hmem
    exact ⟨m, child, state, h.callback, h.asks⟩
  submits r' content hmem := by
    obtain ⟨rfl, rfl⟩ : r' = r ∧
        content = (StartedEvent.ofParent s (x.before.started + 1)).update data := by
      simpa [h.errands] using hmem
    exact ⟨h.errands, _, h.started, rfl⟩
  changes hne := ⟨hstatus.resolve_left hne, r, _, h.errands⟩

/-- Every course has these effects. -/
theorem Turn.Course.effects {x : Turn} (h : x.Course) : x.Effects := by
  cases h with
  | quiet herrands hafter =>
    exact
      { kinds := .inl herrands
        notifies := by simp [herrands]
        starts := by simp [herrands]
        submits := by simp [herrands]
        changes := fun hne => absurd (by rw [hafter]) hne }
  | @notified m record hm herrands hafter =>
    exact
      { kinds := .inr (.inl ⟨record, herrands⟩)
        notifies := fun _ _ => ⟨m, hm⟩
        starts := by simp [herrands]
        submits := by simp [herrands]
        changes := fun hne => absurd (by rw [hafter]) hne }
  | @abandoned m child state r h herrands hparent =>
    refine
      { kinds := .inr (.inr (.inl ⟨r, herrands⟩))
        notifies := by simp [herrands]
        starts := fun r' event hmem => ?_
        submits := by simp [herrands]
        changes := fun hne => absurd hparent hne }
    obtain ⟨rfl, -⟩ : r' = r ∧ event = .updateParentState := by simpa [herrands] using hmem
    exact ⟨m, child, state, h.callback, h.asks⟩
  | refused h hafter => exact h.effects (.inl (by rw [hafter, h.parent]))
  | recorded h hstatus => exact h.effects (.inr hstatus)

/-- In every session each request has these effects only, and no token is submitted twice. -/
theorem session_effects (p : Platform) (visits : List Visit) :
    (∀ x ∈ Session.log p visits, x.Effects) ∧ (submittedTokens (Session.log p visits)).Nodup :=
  ⟨fun _ hx => (course_of_mem_log hx).effects, (tokens_of_session p visits).2⟩

end GeneralApplications

import GeneralApplications.Proofs.Platform.Run

/-!
# Collaborators

Errands are carried out by collaborators with a state of their own, about whom nothing else is
known: any platform, any sender, and any failure of either is one. An `Account` tells all that comes
of a computation: its result, its calls with their outcomes, and the state in which it leaves the
collaborators. The platform in memory is one case (`Platform.run_eq`).

No procedure hides or rewords the failure of an errand: the first one ends it and is what it
returns (`Procedure.PassesOn`, which holds of the steps of a procedure and of their sequence).
-/

namespace GeneralApplications

variable {σ α β : Type}

/-! ## Running errands -/

/-- What comes of an errand in a state of the collaborators, and their state after it. -/
structure Collaborators (σ : Type) where
  carryOut : (e : Errand) → σ → e.Outcome × σ

/-- An errand that was run, and what came of it. -/
structure Call where
  errand : Errand
  outcome : errand.Outcome

/-- All that comes of a computation. -/
structure Account (σ α : Type) where
  result : α
  calls : List Call
  state : σ

/-- The account with another result. -/
def Account.map (f : α → β) (x : Account σ α) : Account σ β :=
  ⟨f x.result, x.calls, x.state⟩

namespace Collaborators

/-- Runs a computation: each errand is carried out in the state that the errands before it have
left. -/
def run (w : Collaborators σ) : σ → Errands α → Account σ α
  | s, .done a => ⟨a, [], s⟩
  | s, .ask e next =>
    let (outcome, s') := w.carryOut e s
    let rest := w.run s' (next outcome)
    ⟨rest.result, ⟨e, outcome⟩ :: rest.calls, rest.state⟩

variable {w : Collaborators σ} {s : σ}

@[simp] theorem run_done (a : α) : w.run s (.done a) = ⟨a, [], s⟩ := rfl

@[simp] theorem run_ask (e : Errand) (next : e.Outcome → Errands α) :
    w.run s (.ask e next) =
      let rest := w.run (w.carryOut e s).2 (next (w.carryOut e s).1)
      ⟨rest.result, ⟨e, (w.carryOut e s).1⟩ :: rest.calls, rest.state⟩ := rfl

/-- One computation after another. -/
theorem run_bind (m : Errands α) (f : α → Errands β) (s : σ) :
    w.run s (m.bind f) =
      let first := w.run s m
      let rest := w.run first.state (f first.result)
      ⟨rest.result, first.calls ++ rest.calls, rest.state⟩ := by
  induction m generalizing s with
  | done a => rfl
  | ask e next ih => simp [ih]

/-- A result that is changed changes nothing else. -/
theorem run_map (f : α → β) (m : Errands α) : w.run s (f <$> m) = (w.run s m).map f := by
  have hmap : f <$> m = m.bind fun a => .done (f a) := rfl
  rw [hmap, run_bind]
  simp [Account.map]

end Collaborators

/-- The platform in memory as a collaborator, with the failures that are made to happen. -/
def Platform.collaborators (d : Disruption) : Collaborators Platform where
  carryOut e p := p.carryOut d e

/-- A run against the platform in memory. -/
theorem Platform.run_eq (d : Disruption) (p : Platform) (m : Errands α) :
    Platform.run d p m =
      let x := (collaborators d).run p m
      (x.result, x.calls.map (·.errand), x.state) := by
  induction m generalizing p with
  | done a => rfl
  | ask e next ih =>
    rw [Platform.run_ask, ih]
    rfl

/-! ## Failures -/

/-- The failure that an errand came to, as a procedure returns it: that of the platform as it is,
that of the sender as the cause of a failed notification. -/
def Call.failure? : Call → Option Failure
  | ⟨.start _ _, .error f⟩ => some f
  | ⟨.submit _ _, .error f⟩ => some f
  | ⟨.notify _, .error text⟩ =>
    some ⟨.notificationFailure, "Failed to send respondent notification", some text⟩
  | ⟨.start _ _, .ok _⟩ => none
  | ⟨.submit _ _, .ok _⟩ => none
  | ⟨.notify _, .ok _⟩ => none

namespace Procedure

/-- Whoever the collaborators are, an errand that fails makes the procedure fail with that very
failure. -/
def PassesOn (x : Procedure α) : Prop :=
  ∀ (σ : Type) (w : Collaborators σ) (s : σ), ∀ call ∈ (w.run s x.run).calls,
    ∀ f, call.failure? = some f → (w.run s x.run).result = .error f

theorem passesOn_pure (a : α) : PassesOn (pure a) := by
  intro σ w s call hcall
  cases hcall

theorem passesOn_throw (f : Failure) : PassesOn (throw f : Procedure α) := by
  intro σ w s call hcall
  cases hcall

theorem passesOn_lift (x : Except Failure α) : PassesOn (liftM x : Procedure α) := by
  cases x with
  | ok a => exact passesOn_pure a
  | error f => exact passesOn_throw f

theorem passesOn_require (a : Option α) (f : Failure) : PassesOn (require a f) := by
  cases a with
  | some a => exact passesOn_pure a
  | none => exact passesOn_throw f

/-- A procedure that is one errand passes on its failure if it says so of its outcomes. -/
theorem passesOn_of_errand {x : Procedure α} (e : Errand) (result : e.Outcome → Except Failure α)
    (hx : x.run = .ask e fun outcome => .done (result outcome))
    (h : ∀ outcome f, Call.failure? ⟨e, outcome⟩ = some f → result outcome = .error f) :
    x.PassesOn := by
  intro σ w s call hcall f hf
  rw [hx] at hcall ⊢
  obtain rfl : call = ⟨e, (w.carryOut e s).1⟩ := by simpa using hcall
  exact h _ f hf

theorem passesOn_start (case : CaseReference) (event : CaseEvent) :
    PassesOn (start case event) := by
  refine passesOn_of_errand (.start case event) id rfl fun outcome f hf => ?_
  cases outcome with
  | ok started => cases hf
  | error failure => exact congrArg Except.error (Option.some.inj hf)

theorem passesOn_submit (case : CaseReference) (content : EventSubmission) :
    PassesOn (submit case content) := by
  refine passesOn_of_errand (.submit case content) id rfl fun outcome f hf => ?_
  cases outcome with
  | ok snapshot => cases hf
  | error failure => exact congrArg Except.error (Option.some.inj hf)

theorem passesOn_notify (record : CaseRecord) : PassesOn (notify record) := by
  refine passesOn_of_errand (.notify record)
    (fun outcome => outcome.mapError .notification) ?_ fun outcome f hf => ?_
  · refine congrArg (Dialogue.ask _) (funext fun outcome => ?_)
    cases outcome <;> rfl
  · cases outcome with
    | ok u => cases hf
    | error text => exact congrArg Except.error (Option.some.inj hf)

/-- A sequence passes failures on if its steps do: after a failure there is no further step. -/
theorem PassesOn.bind {x : Procedure α} {f : α → Procedure β} (hx : x.PassesOn)
    (hf : ∀ a, (f a).PassesOn) : PassesOn (x >>= f) := by
  intro σ w s call hcall failure hfailure
  have hrun : (x >>= f).run = x.run.bind (ExceptT.bindCont f) := rfl
  rw [hrun, Collaborators.run_bind] at hcall ⊢
  have hfirst := hx σ w s
  generalize w.run s x.run = first at hcall hfirst ⊢
  obtain ⟨result, calls, s'⟩ := first
  cases result with
  | error e =>
    rcases List.mem_append.1 hcall with hcall | hnone
    · cases hfirst call hcall failure hfailure
      rfl
    · cases hnone
  | ok a =>
    rcases List.mem_append.1 hcall with hcall | hcall
    · cases hfirst call hcall failure hfailure
    · exact hf a σ w s' call hcall failure hfailure

end Procedure

end GeneralApplications

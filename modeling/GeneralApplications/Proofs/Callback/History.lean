import GeneralApplications.Callback.Registry

/-!
# Histories of a registry

A registry begins empty; then handlers are registered, handlers are looked up and callbacks are
dispatched, in any order and any number of times. A handler is registered in place: first each of
its events is checked, then each is entered (`enter`). That this does all of a registration or
nothing is `run_enter`.

From one use to the next it is kept that the registry holds the events of the handlers accepted so
far, and that no two of these share an event (`Registered`). `history` adds to it what every use
comes to at any point: a registration (`Registration`), a look-up (`LookUp`) and a dispatch
(`Dispatching`). Each of the three is an inductive type with one constructor for each course that a
use can take; the conditions of the constructors exclude each other.
-/

namespace GeneralApplications

namespace CallbackRegistry

/-! ## Registering in place -/

/-- The registry with an entry for an event. An entry that the event has already gives way. -/
def insert (r : CallbackRegistry) (e : CaseEvent) (h : CallbackHandler) : CallbackRegistry :=
  ⟨fun e' => if e' = e then some h else r.handler? e'⟩

/-- A registration under way. -/
abbrev Registering : Type → Type :=
  ExceptT DuplicateHandler (StateM CallbackRegistry)

/-- Stops the registration if the event is taken. -/
def checkFree (e : CaseEvent) : Registering Unit := do
  if (← get).handles e then throw ⟨e⟩

/-- Registers a handler in place: all checks come before the first entry. -/
def enter (h : CallbackHandler) : Registering Unit := do
  forM h.events checkFree
  forM h.events fun e => modify (insert · e h)

theorem run_checkFree (e : CaseEvent) (r : CallbackRegistry) :
    (checkFree e).run.run r = (if r.handles e then .error ⟨e⟩ else .ok (), r) := by
  unfold checkFree
  rw [ExceptT.run_bind, StateT.run_bind]
  show StateT.run (ExceptT.run (if r.handles e then throw ⟨e⟩ else pure () : Registering Unit)) r =
    _
  split <;> rfl

/-- The checks stop at the first event that is taken. They change nothing. -/
theorem run_checks (events : List CaseEvent) (r : CallbackRegistry) :
    (forM events checkFree : Registering Unit).run.run r =
      (match events.find? r.handles with
        | some e => .error ⟨e⟩
        | none => .ok (), r) := by
  induction events with
  | nil => rfl
  | cons e events ih =>
    rw [List.forM_cons, ExceptT.run_bind, StateT.run_bind, run_checkFree]
    cases he : r.handles e with
    | true => rw [List.find?_cons_of_pos he]; rfl
    | false =>
      rw [List.find?_cons_of_neg (by simp [he])]
      exact ih

/-- Afterwards the handler has all of the events. An event that is listed twice is entered twice. -/
theorem run_inserts (h : CallbackHandler) (events : List CaseEvent) (r : CallbackRegistry) :
    (forM events fun e => (modify (insert · e h) : Registering Unit)).run.run r =
      (.ok (), ⟨fun e => if e ∈ events then some h else r.handler? e⟩) := by
  induction events generalizing r with
  | nil => simp; rfl
  | cons e events ih =>
    rw [List.forM_cons, ExceptT.run_bind, StateT.run_bind]
    refine (ih (r.insert e h)).trans ?_
    congr 2
    funext e'
    by_cases hin : e' ∈ events <;> simp [insert, hin]

/-- Registering in place is `register`, and a refused handler leaves the registry as it was. -/
theorem run_enter (h : CallbackHandler) (r : CallbackRegistry) :
    (enter h).run.run r =
      match r.register h with
      | .ok s => (.ok (), s)
      | .error d => (.error d, r) := by
  unfold enter register
  rw [ExceptT.run_bind, StateT.run_bind, run_checks]
  cases h.events.find? r.handles with
  | some e => rfl
  | none => exact run_inserts h h.events r

end CallbackRegistry

/-! ## Uses -/

/-- A use of a registry. -/
inductive RegistryUse where
  | register (h : CallbackHandler)
  | find (eventId : String)
  | dispatch (stage : CallbackStage) (request : CallbackRequest)

namespace RegistryUse

/-- What a use gives back. -/
abbrev Outcome : RegistryUse → Type
  | register _ => Except DuplicateHandler Unit
  | find _ => Option CallbackHandler
  | dispatch _ _ => Procedure CallbackResponse

/-- One use of the registry. -/
def run : (u : RegistryUse) → StateM CallbackRegistry u.Outcome
  | register h => (CallbackRegistry.enter h).run
  | find eventId => return (← get).handlerFor? eventId
  | dispatch stage request => return (← get).dispatch stage request

/-- The handler of a registration that is answered without an error. -/
def accepted? (r : CallbackRegistry) : RegistryUse → Option CallbackHandler
  | register h =>
    match (run (register h) r).1 with
    | .ok () => some h
    | .error _ => none
  | find _ | dispatch _ _ => none

end RegistryUse

namespace CallbackRegistry

open RegistryUse (accepted?)

variable {r : CallbackRegistry} {accepted : List CallbackHandler}

/-- The registry after a list of uses. -/
def after (r : CallbackRegistry) (uses : List RegistryUse) : CallbackRegistry :=
  uses.foldl (fun r u => (u.run r).2) r

/-- The handlers that are accepted in a list of uses. -/
def acceptedIn (r : CallbackRegistry) : List RegistryUse → List CallbackHandler
  | [] => []
  | u :: uses => (accepted? r u).toList ++ acceptedIn (u.run r).2 uses

/-! ## What a registration comes to -/

/-- A registration in a registry: what is answered, and the registry afterwards. -/
inductive Registration (r : CallbackRegistry) (h : CallbackHandler) :
    Except DuplicateHandler Unit × CallbackRegistry → Prop
  /-- The event is the first of the handler's that the registry has. -/
  | refused {before after : List CaseEvent} {e : CaseEvent}
      (declared : h.events = before ++ e :: after)
      (free : ∀ e' ∈ before, e' ∉ r.events)
      (taken : e ∈ r.events) :
      Registration r h (.error ⟨e⟩, r)
  /-- The handler gets its events, and no other event is touched. -/
  | accepted {s : CallbackRegistry}
      (free : ∀ e ∈ h.events, e ∉ r.events)
      (handler? : ∀ e, s.handler? e = if e ∈ h.events then some h else r.handler? e) :
      Registration r h (.ok (), s)

theorem registration (r : CallbackRegistry) (h : CallbackHandler) :
    Registration r h ((RegistryUse.register h).run r) := by
  show Registration r h ((enter h).run.run r)
  rw [run_enter]
  cases hr : r.register h with
  | error d =>
    obtain ⟨taken, before, after, declared, free⟩ :=
      List.find?_eq_some_iff_append.mp (register_eq_error_iff.mp hr)
    refine .refused declared (fun e' he' => ?_) (mem_events_iff.mpr taken)
    have := free e' he'
    rw [mem_events_iff]
    simpa only [Bool.not_eq_true, Bool.not_eq_true'] using this
  | ok s =>
    refine .accepted (fun e he => ?_) (handler?_of_register hr)
    rw [mem_events_iff]
    intro taken
    have : h.events.find? r.handles = none := by
      unfold register at hr
      split at hr
      · cases hr
      · assumption
    exact List.find?_eq_none.mp this e he taken

/-- A look-up and a dispatch leave the registry as it is, and so does a refused registration. -/
theorem run_cases (r : CallbackRegistry) (u : RegistryUse) :
    (accepted? r u = none ∧ (u.run r).2 = r) ∨
      ∃ h, accepted? r u = some h ∧ (∀ e ∈ h.events, e ∉ r.events) ∧
        ∀ e, (u.run r).2.handler? e = if e ∈ h.events then some h else r.handler? e := by
  cases u with
  | find eventId => exact .inl ⟨rfl, rfl⟩
  | dispatch stage request => exact .inl ⟨rfl, rfl⟩
  | register h =>
    dsimp only [accepted?]
    generalize hrun : (RegistryUse.register h).run r = result
    have course := registration r h
    rw [hrun] at course
    cases course with
    | refused declared free taken => exact .inl ⟨rfl, rfl⟩
    | accepted free handler? => exact .inr ⟨h, rfl, free, handler?⟩

/-! ## What is kept from use to use -/

/-- The registry holds the events of the accepted handlers, each for the one that declared it. -/
structure Registered (r : CallbackRegistry) (accepted : List CallbackHandler) : Prop where
  holds_iff : ∀ e h, r.handler? e = some h ↔ h ∈ accepted ∧ e ∈ h.events
  /-- No event is declared by two of the handlers, and none by one that is accepted twice. -/
  apart : accepted.Pairwise fun a b => ∀ e ∈ a.events, e ∉ b.events

theorem Registered.empty : Registered empty [] where
  holds_iff := by simp [CallbackRegistry.empty]
  apart := .nil

theorem Registered.mem_events_iff (kept : Registered r accepted) {e : CaseEvent} :
    e ∈ r.events ↔ ∃ h ∈ accepted, e ∈ h.events := by
  rw [CallbackRegistry.mem_events_iff, handles_iff]
  simp only [kept.holds_iff]

/-- One use keeps it, with the handler that it adds. -/
theorem Registered.run (kept : Registered r accepted) (u : RegistryUse) :
    Registered (u.run r).2 (accepted ++ (accepted? r u).toList) := by
  obtain ⟨hnone, hr⟩ | ⟨h, hsome, free, handler?⟩ := run_cases r u
  · rw [hnone, hr]
    simpa using kept
  · rw [hsome]
    -- the events of the new handler were in none of the handlers before it
    have new : ∀ a ∈ accepted, ∀ e ∈ a.events, e ∉ h.events := by
      intro a ha e hea heh
      exact free e heh (kept.mem_events_iff.mpr ⟨a, ha, hea⟩)
    constructor
    · intro e a
      rw [handler?, Option.toList_some, List.mem_append, List.mem_singleton]
      split
      next he =>
        constructor
        · intro ha
          cases ha
          exact ⟨.inr rfl, he⟩
        · rintro ⟨ha | rfl, hea⟩
          · exact absurd he (new a ha e hea)
          · rfl
      next he =>
        rw [kept.holds_iff]
        constructor
        · rintro ⟨ha, hea⟩
          exact ⟨.inl ha, hea⟩
        · rintro ⟨ha | rfl, hea⟩
          · exact ⟨ha, hea⟩
          · exact absurd hea he
    · rw [Option.toList_some, List.pairwise_append]
      refine ⟨kept.apart, List.pairwise_singleton _ _, ?_⟩
      intro a ha b hb
      rw [List.mem_singleton.mp hb]
      exact new a ha

/-- A history keeps it, with the handlers that are accepted in it. -/
theorem Registered.after (kept : Registered r accepted) (uses : List RegistryUse) :
    Registered (r.after uses) (accepted ++ r.acceptedIn uses) := by
  induction uses generalizing r accepted with
  | nil => simpa [CallbackRegistry.after, acceptedIn] using kept
  | cons u uses ih =>
    have next := ih (kept.run u)
    rw [List.append_assoc] at next
    exact next

/-- An event keeps its handler through one use. -/
theorem handler?_run {e : CaseEvent} {h : CallbackHandler} (held : r.handler? e = some h)
    (u : RegistryUse) : (u.run r).2.handler? e = some h := by
  obtain ⟨-, hr⟩ | ⟨a, -, free, handler?⟩ := run_cases r u
  · rw [hr, held]
  · have : e ∈ r.events := mem_events_iff.mpr (handles_iff.mpr ⟨h, held⟩)
    rw [handler?, if_neg fun he => free e he this, held]

/-- An event keeps its handler for good. -/
theorem handler?_after {e : CaseEvent} {h : CallbackHandler} (held : r.handler? e = some h)
    (uses : List RegistryUse) : (r.after uses).handler? e = some h := by
  induction uses generalizing r with
  | nil => exact held
  | cons u uses ih => exact ih (handler?_run held u)

/-! ## What a look-up and a dispatch come to -/

/-- The events are listed in declaration order, each once. -/
theorem events_pairwise (r : CallbackRegistry) : r.events.Pairwise (·.position < ·.position) :=
  List.Pairwise.filter _ (by decide)

/-- A look-up in a registry: what is found, and the registry afterwards. -/
inductive LookUp (r : CallbackRegistry) (eventId : String) :
    Option CallbackHandler × CallbackRegistry → Prop
  | found {e : CaseEvent} {h : CallbackHandler} (listed : e ∈ r.events) (named : eventId = e.name)
      (held : r.handler? e = some h) : LookUp r eventId (some h, r)
  | missing (unlisted : ∀ e ∈ r.events, eventId ≠ e.name) : LookUp r eventId (none, r)

theorem lookUp (r : CallbackRegistry) (eventId : String) :
    LookUp r eventId ((RegistryUse.find eventId).run r) := by
  show LookUp r eventId (r.handlerFor? eventId, r)
  cases hf : r.handlerFor? eventId with
  | some h =>
    obtain ⟨e, named, held⟩ := Option.bind_eq_some_iff.mp hf
    have listed : e ∈ r.events := mem_events_iff.mpr (handles_iff.mpr ⟨h, held⟩)
    exact .found listed (CaseEvent.ofName?_eq_some_iff.mp named).symm held
  | none =>
    refine .missing fun e listed named => ?_
    obtain ⟨h, held⟩ := handles_iff.mp (mem_events_iff.mp listed)
    have : r.handlerFor? eventId = some h := by
      unfold handlerFor?
      rw [CaseEvent.ofName?_eq_some_iff.mpr named.symm, Option.bind_some, held]
    rw [hf] at this
    cases this

/-- A dispatch in a registry: what is done for the callback, and the registry afterwards. A handler
that is given the callback does all that is done for it, so it is invoked exactly once. -/
inductive Dispatching (r : CallbackRegistry) (stage : CallbackStage) (request : CallbackRequest) :
    Procedure CallbackResponse × CallbackRegistry → Prop
  | handled {e : CaseEvent} {h : CallbackHandler} {record : CaseRecord}
      (named : request.eventId = e.name) (held : r.handler? e = some h)
      (read : request.snapshot.toRecord = .ok record) :
      Dispatching r stage request (h.handle ⟨stage, request, record⟩, r)
  | unreadable {e : CaseEvent} {h : CallbackHandler} {failure : Failure}
      (named : request.eventId = e.name) (held : r.handler? e = some h)
      (failed : request.snapshot.toRecord = .error failure) :
      Dispatching r stage request (throw failure, r)
  | unknown (unlisted : ∀ e ∈ r.events, request.eventId ≠ e.name) :
      Dispatching r stage request
        (throw (.of .notFound ("No callback handler registered for event " ++ request.eventId)), r)

theorem dispatching (r : CallbackRegistry) (stage : CallbackStage) (request : CallbackRequest) :
    Dispatching r stage request ((RegistryUse.dispatch stage request).run r) := by
  show Dispatching r stage request (r.dispatch stage request, r)
  have found := lookUp r request.eventId
  generalize hf : (RegistryUse.find request.eventId).run r = result at found
  have hf : (r.handlerFor? request.eventId, r) = result := hf
  unfold dispatch
  cases found with
  | missing unlisted =>
    rw [(Prod.mk.inj hf).1]
    exact .unknown unlisted
  | found listed named held =>
    rw [(Prod.mk.inj hf).1]
    cases hc : request.snapshot.toRecord with
    | ok record => exact .handled named held hc
    | error failure => exact .unreadable named held hc

/-! ## Any history -/

/-- What holds of a registry after any list of uses, beginning with no handlers. A registration
fails exactly if an event of the handler is taken, with the first such event, and then changes
nothing. The events that are held are those of the handlers accepted so far, each held for the one
that declared it, for good; they are listed in declaration order, each once. A look-up finds a
handler under the exact name of a listed event only, and then that event's. A dispatch is what that
handler does with the record of the case; without a handler or a record nothing is done. Neither
touches the registry. -/
theorem history (uses : List RegistryUse) :
    let r := empty.after uses
    let accepted := empty.acceptedIn uses
    (∀ h, Registration r h ((RegistryUse.register h).run r)) ∧
      Registered r accepted ∧
      (∀ e h later, r.handler? e = some h → (r.after later).handler? e = some h) ∧
      (∀ e, e ∈ r.events ↔ ∃ h ∈ accepted, e ∈ h.events) ∧
      r.events.Pairwise (·.position < ·.position) ∧
      (∀ eventId, LookUp r eventId ((RegistryUse.find eventId).run r)) ∧
      (∀ stage request,
        Dispatching r stage request ((RegistryUse.dispatch stage request).run r)) := by
  intro r accepted
  have kept : Registered r accepted := Registered.empty.after uses
  exact ⟨registration r, kept, fun e h later held => handler?_after held later,
    fun e => kept.mem_events_iff, events_pairwise r, lookUp r, dispatching r⟩

/-- Nothing is entered for a handler that is refused, although its first event was free. -/
example (first second : Callback → Procedure CallbackResponse) :
    (empty.after [.register ⟨[.makeDecision, .makeDecision], first⟩,
      .register ⟨[.endJudgeProcess, .makeDecision], second⟩]).events = [.makeDecision] := rfl

end CallbackRegistry

end GeneralApplications

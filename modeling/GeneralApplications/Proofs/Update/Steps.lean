import GeneralApplications.Proofs.Update.View
import Mathlib.Data.List.Induction

/-!
# Runs of state changes

A parent case is given one state change after another: of different applications, of the same
application again, uncloaked or not. `withStates_eq` says what the parent is afterwards without
following the run: every summary has the state of the last change of its application, and the
respondents' view has grown by one entry for each application that a change has shown, in the order
in which that happened.

The induction is on the run from its end, as a change acts on all that the changes before it have
made. It rests on two things: a change of state leaves an entry about the application that it is
about, and so an entry that was shown takes part in every later change like those that were there.
-/

namespace GeneralApplications

/-- A change of an application's state. -/
structure StateChange where
  child : CaseReference
  state : String
  uncloaked : Bool

/-- The parent case after a run of changes. -/
def CaseRecord.withStates (parent : CaseRecord) (run : List StateChange) : CaseRecord :=
  run.foldl (fun p s => p.withApplicationState s.child s.state s.uncloaked) parent

/-- The last change of an application in a run. -/
def lastChange? (run : List StateChange) (child : CaseReference) : Option StateChange :=
  run.reverse.find? (·.child = child)

/-- The place of the first change in a run that uncloaks an application. -/
def firstUncloaking (run : List StateChange) (child : CaseReference) : Nat :=
  run.findIdx fun s => s.child = child && s.uncloaked

/-- The summary after a run: only the state can differ, and it is that of the last change of its
application. -/
def ApplicationSummary.after (run : List StateChange) (s : ApplicationSummary) :
    ApplicationSummary :=
  match run.reverse.find? (s.linksTo ·.child) with
  | some last => { s with state := some last.state }
  | none => s

variable {run : List StateChange} {child c : CaseReference}

/-! ## A summary through a run -/

namespace ApplicationSummary

@[simp] theorem linksTo_after (s : ApplicationSummary) : (s.after run).linksTo c = s.linksTo c := by
  unfold after
  split <;> rfl

/-- The last change decides. -/
theorem after_concat (s : ApplicationSummary) (run : List StateChange) (x : StateChange) :
    s.after (run ++ [x]) = (s.after run).settingState x.child x.state := by
  unfold settingState
  rw [linksTo_after]
  unfold after
  rw [List.reverse_concat, List.find?_cons]
  cases s.linksTo x.child with
  | false => rfl
  | true => cases run.reverse.find? (s.linksTo ·.child) <;> rfl

/-- The changes that a summary takes part in are those of its application. -/
theorem after_eq {s : ApplicationSummary} (h : s.linksTo child = true) (run : List StateChange) :
    s.after run = match lastChange? run child with
      | some last => { s with state := some last.state }
      | none => s := by
  have same : (fun x : StateChange => s.linksTo x.child) = fun x => decide (x.child = child) := by
    funext x
    rw [Bool.eq_iff_iff, decide_eq_true_iff]
    constructor
    · exact linksTo_unique h
    · rintro rfl
      exact h
  unfold after lastChange?
  rw [same]

end ApplicationSummary

/-! ## The entries of a list through a run -/

namespace CaseRecord

/-- The entries after a run. -/
def entriesAfter (run : List StateChange) (entries : List (Entry ApplicationSummary)) :
    List (Entry ApplicationSummary) :=
  entries.map (·.map (·.after run))

theorem entriesAfter_concat (run : List StateChange) (x : StateChange)
    (entries : List (Entry ApplicationSummary)) :
    entriesAfter (run ++ [x]) entries =
      settingState x.child x.state (entriesAfter run entries) := by
  unfold entriesAfter settingState
  rw [List.map_map]
  refine List.map_congr_left fun e _ => ?_
  exact congrArg (Entry.mk e.id) (e.value.after_concat run x)

theorem entryOf?_entriesAfter (child : CaseReference) (run : List StateChange)
    (entries : List (Entry ApplicationSummary)) :
    entryOf? child (entriesAfter run entries) =
      (entryOf? child entries).map (·.map (·.after run)) := by
  unfold entryOf? entriesAfter
  rw [List.find?_map]
  congr 2
  funext e
  exact e.value.linksTo_after

/-- What is disclosed does not depend on the states. -/
theorem disclosure_entriesAfter (child : CaseReference) (run : List StateChange)
    (applications view : List (Entry ApplicationSummary)) :
    disclosure child (entriesAfter run applications) (entriesAfter run view) =
      (disclosure child applications view).map (·.map (·.after run)) := by
  unfold disclosure
  rw [entryOf?_entriesAfter, entryOf?_entriesAfter]
  cases entryOf? child view with
  | some e => rfl
  | none => cases entryOf? child applications <;> rfl

/-! ## What a run discloses -/

/-- The entry that a change adds to the view, with the state that it had at first. -/
def disclosedBy (parent : CaseRecord) (shown : List (Entry ApplicationSummary)) (x : StateChange) :
    List (Entry ApplicationSummary) :=
  if x.uncloaked then
    (disclosure x.child parent.applications (parent.respondentView ++ shown)).toList
  else []

/-- The entries that a run adds to the view, with the states that they had at first. -/
def disclosedIn (parent : CaseRecord) (run : List StateChange) : List (Entry ApplicationSummary) :=
  run.foldl (fun shown x => shown ++ parent.disclosedBy shown x) []

theorem disclosedIn_concat (parent : CaseRecord) (run : List StateChange) (x : StateChange) :
    parent.disclosedIn (run ++ [x]) =
      parent.disclosedIn run ++ parent.disclosedBy (parent.disclosedIn run) x := by
  unfold disclosedIn
  rw [List.foldl_append, List.foldl_cons, List.foldl_nil]

/-- The parent after a run: what the run discloses might have been there from the beginning. -/
def afterRun (parent : CaseRecord) (run : List StateChange) : CaseRecord :=
  { parent with
    applications := entriesAfter run parent.applications
    respondentView := entriesAfter run (parent.respondentView ++ parent.disclosedIn run) }

theorem afterRun_concat (parent : CaseRecord) (run : List StateChange) (x : StateChange) :
    parent.afterRun (run ++ [x]) =
      (parent.afterRun run).withApplicationState x.child x.state x.uncloaked := by
  unfold afterRun withApplicationState
  simp only [← entriesAfter_concat]
  congr 1
  rw [disclosedIn_concat, ← List.append_assoc]
  unfold disclosedBy
  cases x.uncloaked with
  | false => simp
  | true =>
    rw [if_pos rfl, if_pos rfl, disclosure_entriesAfter]
    unfold entriesAfter
    rw [List.map_append, Option.toList_map]

theorem withStates_eq_afterRun (parent : CaseRecord) (run : List StateChange) :
    parent.withStates run = parent.afterRun run := by
  induction run using List.reverseRecOn with
  | nil =>
    have same : ∀ entries, entriesAfter [] entries = entries := List.map_id
    unfold afterRun
    rw [same, same]
    exact congrArg (fun view => { parent with respondentView := view }) (List.append_nil _).symm
  | append_singleton run x ih =>
    rw [afterRun_concat, ← ih]
    unfold withStates
    rw [List.foldl_append, List.foldl_cons, List.foldl_nil]

/-! ## Which applications a run discloses -/

/-- The parent lists an application, and the respondents do not see it. -/
def Undisclosed (parent : CaseRecord) (child : CaseReference) : Prop :=
  (∃ e ∈ parent.applications, e.value.linksTo child = true) ∧
    ∀ e ∈ parent.respondentView, e.value.linksTo child = false

/-- The applications that a run discloses, and their entries. -/
structure Discloses (parent : CaseRecord) (run : List StateChange) (children : List CaseReference)
    (entries : List (Entry ApplicationSummary)) : Prop where
  mem_iff : ∀ c, c ∈ children ↔
    (∃ x ∈ run, x.child = c ∧ x.uncloaked = true) ∧ parent.Undisclosed c
  ordered : children.Pairwise fun c d => firstUncloaking run c < firstUncloaking run d
  /-- An entry repeats the first that the parent has about the application. -/
  entries : List.Forall₂
    (fun c e => ∃ a, entryOf? c parent.applications = some a ∧ e = .new a.value) children entries

variable {parent : CaseRecord} {children : List CaseReference}
  {entries applications view : List (Entry ApplicationSummary)}

theorem entryOf?_eq_none_iff :
    entryOf? child entries = none ↔ ∀ e ∈ entries, e.value.linksTo child = false := by
  unfold entryOf?
  rw [List.find?_eq_none]
  simp only [Bool.not_eq_true]

theorem linksTo_of_entryOf? {e : Entry ApplicationSummary}
    (h : entryOf? child entries = some e) : e.value.linksTo child = true :=
  List.find?_some (p := fun a : Entry ApplicationSummary => a.value.linksTo child) h

/-- The entries that a run has added are about the applications that it has disclosed. -/
theorem Discloses.linksTo_iff (h : Discloses parent run children entries) (c : CaseReference) :
    (∀ e ∈ entries, e.value.linksTo c = false) ↔ c ∉ children := by
  obtain ⟨-, -, hentries⟩ := h
  induction hentries with
  | nil => simp
  | @cons d e children entries hd _ ih =>
    obtain ⟨a, ha, rfl⟩ := hd
    have hlink : a.value.linksTo d = true := linksTo_of_entryOf? ha
    have hcd : a.value.linksTo c = false ↔ c ≠ d := by
      rw [← Bool.not_eq_true, not_iff_not]
      constructor
      · exact ApplicationSummary.linksTo_unique hlink
      · rintro rfl
        exact hlink
    rw [List.forall_mem_cons, List.mem_cons, not_or, ih]
    exact and_congr_left' hcd

theorem firstUncloaking_concat_of_mem {x y : StateChange} (hy : y ∈ run) (hc : y.child = c)
    (hu : y.uncloaked = true) : firstUncloaking (run ++ [x]) c = firstUncloaking run c ∧
      firstUncloaking run c < run.length := by
  have hlt : firstUncloaking run c < run.length :=
    List.findIdx_lt_length_of_exists ⟨y, hy, by simp [hc, hu]⟩
  refine ⟨?_, hlt⟩
  unfold firstUncloaking at hlt ⊢
  rw [List.findIdx_append, if_pos hlt]

theorem firstUncloaking_concat_of_not_mem {x : StateChange}
    (h : ∀ y ∈ run, y.child = x.child → y.uncloaked ≠ true) (hu : x.uncloaked = true) :
    firstUncloaking (run ++ [x]) x.child = run.length := by
  have hnone : run.findIdx (fun y => y.child = x.child && y.uncloaked) = run.length := by
    rw [List.findIdx_eq_length]
    intro y hy
    by_cases hc : y.child = x.child
    · simpa [hc] using h y hy hc
    · simp [hc]
  unfold firstUncloaking
  rw [List.findIdx_append, hnone, if_neg (Nat.lt_irrefl _)]
  simp [hu]

/-- A change adds an entry if it uncloaks an application that is not disclosed yet. -/
theorem Discloses.disclosedBy_cases (h : Discloses parent run children entries) (x : StateChange) :
    (x.uncloaked = true ∧ parent.Undisclosed x.child ∧ x.child ∉ children ∧
        ∃ a, entryOf? x.child parent.applications = some a ∧
          parent.disclosedBy entries x = [.new a.value]) ∨
      (parent.disclosedBy entries x = [] ∧
        (x.uncloaked = true → parent.Undisclosed x.child → x.child ∈ children)) := by
  unfold disclosedBy
  cases x.uncloaked with
  | false => exact .inr ⟨rfl, nofun⟩
  | true =>
    rw [if_pos rfl]
    unfold disclosure
    have hview : entryOf? x.child (parent.respondentView ++ entries) = none ↔
        (∀ e ∈ parent.respondentView, e.value.linksTo x.child = false) ∧ x.child ∉ children := by
      rw [entryOf?_eq_none_iff, List.forall_mem_append, h.linksTo_iff]
    cases hshown : entryOf? x.child (parent.respondentView ++ entries) with
    | some e =>
      refine .inr ⟨rfl, fun _ hun => ?_⟩
      by_contra hnot
      rw [hview.mpr ⟨hun.2, hnot⟩] at hshown
      cases hshown
    | none =>
      obtain ⟨hunseen, hnot⟩ := hview.mp hshown
      cases hlisted : entryOf? x.child parent.applications with
      | some a =>
        have hun : parent.Undisclosed x.child :=
          ⟨⟨a, List.mem_of_find?_eq_some hlisted, linksTo_of_entryOf? hlisted⟩, hunseen⟩
        exact .inl ⟨rfl, hun, hnot, a, rfl, rfl⟩
      | none =>
        refine .inr ⟨rfl, fun _ hun => ?_⟩
        obtain ⟨⟨a, ha, hlink⟩, -⟩ := hun
        rw [entryOf?_eq_none_iff.mp hlisted a ha] at hlink
        cases hlink

/-- The applications that are disclosed keep their order through a further change. -/
theorem Discloses.ordered_concat (h : Discloses parent run children entries) (x : StateChange) :
    children.Pairwise fun c d =>
      firstUncloaking (run ++ [x]) c < firstUncloaking (run ++ [x]) d := by
  refine h.ordered.imp_of_mem fun {c d} hc hd hlt => ?_
  obtain ⟨⟨y, hy, hyc, hyu⟩, -⟩ := (h.mem_iff c).mp hc
  obtain ⟨⟨z, hz, hzd, hzu⟩, -⟩ := (h.mem_iff d).mp hd
  rw [(firstUncloaking_concat_of_mem hy hyc hyu).1, (firstUncloaking_concat_of_mem hz hzd hzu).1]
  exact hlt

theorem Discloses.concat (h : Discloses parent run children entries) (x : StateChange) :
    ∃ children', Discloses parent (run ++ [x]) children'
      (entries ++ parent.disclosedBy entries x) := by
  have hmem : ∀ c, ((∃ y ∈ run ++ [x], y.child = c ∧ y.uncloaked = true) ∧ parent.Undisclosed c) ↔
      c ∈ children ∨ (x.child = c ∧ x.uncloaked = true ∧ parent.Undisclosed c) := by
    intro c
    rw [h.mem_iff]
    simp only [List.mem_append, List.mem_singleton, or_and_right, exists_or, exists_eq_left,
      and_assoc]
  obtain ⟨huncloaked, hun, hnot, a, ha, hnew⟩ | ⟨hnew, hknown⟩ := h.disclosedBy_cases x
  · rw [hnew]
    refine ⟨children ++ [x.child], ?_, ?_, ?_⟩
    · intro c
      rw [hmem, List.mem_append, List.mem_singleton]
      refine or_congr_right ⟨?_, ?_⟩
      · rintro rfl
        exact ⟨rfl, huncloaked, hun⟩
      · rintro ⟨rfl, -⟩
        rfl
    · rw [List.pairwise_append]
      refine ⟨h.ordered_concat x, List.pairwise_singleton _ _, ?_⟩
      intro c hc d hd
      obtain ⟨⟨y, hy, hyc, hyu⟩, -⟩ := (h.mem_iff c).mp hc
      obtain ⟨hc', hlt⟩ := firstUncloaking_concat_of_mem (x := x) hy hyc hyu
      -- an earlier change that uncloaks the application would have disclosed it
      have hlast : firstUncloaking (run ++ [x]) x.child = run.length :=
        firstUncloaking_concat_of_not_mem
          (fun z hz hzx hzu => hnot ((h.mem_iff _).mpr ⟨⟨z, hz, hzx, hzu⟩, hun⟩)) huncloaked
      rw [List.mem_singleton.mp hd, hc', hlast]
      exact hlt
    · exact List.rel_append h.entries (.cons ⟨a, ha, rfl⟩ .nil)
  · rw [hnew, List.append_nil]
    refine ⟨children, ?_, h.ordered_concat x, h.entries⟩
    intro c
    rw [hmem]
    constructor
    · exact .inl
    · rintro (hc | ⟨rfl, huncloaked, hun⟩)
      · exact hc
      · exact hknown huncloaked hun

theorem discloses_disclosedIn (parent : CaseRecord) (run : List StateChange) :
    ∃ children, Discloses parent run children (parent.disclosedIn run) := by
  induction run using List.reverseRecOn with
  | nil => exact ⟨[], by simp, .nil, .nil⟩
  | append_singleton run x ih =>
    obtain ⟨children, h⟩ := ih
    rw [disclosedIn_concat]
    exact h.concat x

/-! ## The closed form -/

theorem exists_lastChange? {x : StateChange} (hx : x ∈ run) (hc : x.child = c) :
    ∃ last, lastChange? run c = some last := by
  rw [← Option.isSome_iff_exists]
  unfold lastChange?
  rw [List.find?_isSome]
  exact ⟨x, List.mem_reverse.mpr hx, by simpa using hc⟩

/-- An entry that was added takes part in the rest of the run. -/
theorem Discloses.entriesAfter (h : Discloses parent run children entries) :
    List.Forall₂ (fun c e => ∃ a last, parent.applications.find? (·.value.linksTo c) = some a ∧
      lastChange? run c = some last ∧ e = ⟨none, { a.value with state := some last.state }⟩)
      children (entriesAfter run entries) := by
  unfold CaseRecord.entriesAfter
  rw [List.forall₂_map_right_iff]
  refine ((List.forall₂_and_left _ _).mpr ⟨fun c hc => (h.mem_iff c).mp hc, h.entries⟩).imp ?_
  rintro c e ⟨⟨⟨x, hx, hxc, -⟩, -⟩, a, ha, rfl⟩
  obtain ⟨last, hlast⟩ := exists_lastChange? hx hxc
  refine ⟨a, last, ha, hlast, congrArg (Entry.mk none) ?_⟩
  show a.value.after run = _
  rw [ApplicationSummary.after_eq (linksTo_of_entryOf? ha), hlast]

/-- The parent after any run of changes. Each of its summaries has the state of the last change of
its application, if the run has one. The view has further entries at its end, without an id: one for
each application that a change uncloaks, that the parent lists and that the respondents did not see
before. They come in the order in which the applications are uncloaked first. Each repeats the first
entry that the parent lists about the application, with the state of the application's last change.
Nothing else is different. -/
theorem withStates_eq (parent : CaseRecord) (run : List StateChange) :
    ∃ (shown : List CaseReference) (new : List (Entry ApplicationSummary)),
      parent.withStates run =
        { parent with
          applications := parent.applications.map (·.map (·.after run))
          respondentView := parent.respondentView.map (·.map (·.after run)) ++ new } ∧
      (∀ c, c ∈ shown ↔
        (∃ x ∈ run, x.child = c ∧ x.uncloaked = true) ∧
          (∃ e ∈ parent.applications, e.value.linksTo c = true) ∧
          ∀ e ∈ parent.respondentView, e.value.linksTo c = false) ∧
      (shown.Pairwise fun c d => firstUncloaking run c < firstUncloaking run d) ∧
      List.Forall₂
        (fun c e => ∃ a last, parent.applications.find? (·.value.linksTo c) = some a ∧
          lastChange? run c = some last ∧ e = ⟨none, { a.value with state := some last.state }⟩)
        shown new ∧
      ∀ s : ApplicationSummary,
        (∀ c last, s.linksTo c = true → lastChange? run c = some last →
          s.after run = { s with state := some last.state }) ∧
        ((∀ x ∈ run, s.linksTo x.child = false) → s.after run = s) := by
  obtain ⟨shown, h⟩ := discloses_disclosedIn parent run
  refine ⟨shown, entriesAfter run (parent.disclosedIn run), ?_, h.mem_iff, h.ordered,
    h.entriesAfter, fun s => ⟨fun c last hlink hlast => ?_, fun hnone => ?_⟩⟩
  · rw [withStates_eq_afterRun]
    unfold afterRun entriesAfter
    rw [List.map_append]
  · rw [ApplicationSummary.after_eq hlink, hlast]
  · unfold ApplicationSummary.after
    rw [List.find?_eq_none.mpr (by simpa using hnone)]

/-- An entry that one change has shown takes part in the next. -/
example :
    let summary (state : String) : ApplicationSummary :=
      ⟨none, some ⟨some "1234"⟩, some state, none, ∅⟩
    let parent := { empty with applications := [⟨some "a", summary "OPEN"⟩] }
    let child : CaseReference := ⟨1234, by decide, by decide⟩
    (parent.withStates [⟨child, "HEARD", true⟩, ⟨child, "DECIDED", false⟩]).respondentView =
      [.new (summary "DECIDED")] := by decide

end CaseRecord

end GeneralApplications

import GeneralApplications.Case.Record

/-!
# An application's state on its parent case

A parent case lists the applications filed on it twice: for the court, and for the respondents'
solicitors. A new state is set on every entry that links to the application. An application that
has been uncloaked is moreover shown to the respondents, unless it is already.
-/

namespace GeneralApplications

/-- The summary with a new state, if it is about the given application. -/
def ApplicationSummary.settingState (child : CaseReference) (state : String)
    (s : ApplicationSummary) : ApplicationSummary :=
  if s.linksTo child then { s with state := some state } else s

/-- The entry with its value changed. -/
def Entry.map {α β : Type} (f : α → β) (e : Entry α) : Entry β :=
  ⟨e.id, f e.value⟩

namespace CaseRecord

/-- A new state set on every entry about the given application. -/
def settingState (child : CaseReference) (state : String)
    (entries : List (Entry ApplicationSummary)) : List (Entry ApplicationSummary) :=
  entries.map (·.map (·.settingState child state))

/-- The first entry about the given application. -/
def entryOf? (child : CaseReference) (entries : List (Entry ApplicationSummary)) :
    Option (Entry ApplicationSummary) :=
  entries.find? (·.value.linksTo child)

/-- The entry that makes an application visible to the respondents: none if they see it already,
or if the parent does not list it. -/
def disclosure (child : CaseReference) (applications view : List (Entry ApplicationSummary)) :
    Option (Entry ApplicationSummary) :=
  match entryOf? child view with
  | some _ => none
  | none => (entryOf? child applications).map fun e => .new e.value

/-- The parent case with an application's new state. -/
def withApplicationState (parent : CaseRecord) (child : CaseReference) (state : String)
    (uncloaked : Bool) : CaseRecord :=
  let applications := settingState child state parent.applications
  let view := settingState child state parent.respondentView
  let shown := if uncloaked then disclosure child applications view else none
  { parent with applications := applications, respondentView := view ++ shown.toList }

end CaseRecord

end GeneralApplications

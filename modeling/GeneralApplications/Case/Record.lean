import GeneralApplications.Case.Parts
import GeneralApplications.Decision.Basic

/-!
# Case records

A case as this service sees it. The fields it reads or writes are typed; everything else is kept
in `rest`. `cleared` names the typed fields that arrived as an explicit `null`: the platform takes
`null` for "clear" and a missing key for "unchanged".
-/

namespace GeneralApplications

open Json (Codec Layout Object)

/-- A case record. -/
structure CaseRecord where
  reference : Option CaseReference
  state : Option String
  parentLink : Option CaseLink
  uncloaked : Option YesNo
  notice : Option Notice
  solicitors : List (Entry Solicitor)
  decision : Option JudicialDecision
  writtenRepresentations : Option WrittenRepresentations
  informationRequest : Option InformationRequest
  /-- On a parent case: every application filed on it. -/
  applications : List (Entry ApplicationSummary)
  /-- On a parent case: the applications that the respondents' solicitors may see. -/
  respondentView : List (Entry ApplicationSummary)
  rest : Object
  /-- Keys in increasing order. -/
  cleared : List String
  deriving DecidableEq, Repr

namespace CaseRecord

/-- The record without any field. -/
def empty : CaseRecord where
  reference := none
  state := none
  parentLink := none
  uncloaked := none
  notice := none
  solicitors := []
  decision := none
  writtenRepresentations := none
  informationRequest := none
  applications := []
  respondentView := []
  rest := ∅
  cleared := []

instance : Inhabited CaseRecord := ⟨empty⟩

/-! ## Queries -/

/-- The parent case, if the record links to one. -/
def parent (c : CaseRecord) : Option CaseReference :=
  c.parentLink.bind CaseLink.target

/-- The application has been uncloaked. -/
def isUncloaked (c : CaseRecord) : Bool :=
  c.uncloaked = some .yes

/-- The application was made with notice to the other party. -/
def isWithNotice (c : CaseRecord) : Bool :=
  c.notice.bind (·.withNotice) = some .yes

/-- Respondents may be contacted once the application is with notice or has been uncloaked. -/
def respondentsMayBeNotified (c : CaseRecord) : Bool :=
  c.isWithNotice || c.isUncloaked

/-- There is something to read in a text. -/
def hasContent (s : String) : Bool :=
  !(Text.trim s.toList).isEmpty

/-- The email addresses of the respondents' solicitors, blank ones left out. -/
def respondentEmails (c : CaseRecord) : List String :=
  (c.solicitors.filterMap (·.value.email)).filter hasContent

section
variable {c : CaseRecord} {s : String}

/-- Respondents may be contacted exactly if the record says that notice was given or that the
application has been uncloaked. -/
theorem respondentsMayBeNotified_iff : c.respondentsMayBeNotified = true ↔
    (∃ notice, c.notice = some notice ∧ notice.withNotice = some .yes) ∨
      c.uncloaked = some .yes := by
  simp only [respondentsMayBeNotified, isWithNotice, isUncloaked, Bool.or_eq_true,
    decide_eq_true_eq, Option.bind_eq_some_iff]

/-- A text has content exactly if one of its characters is not blank. -/
theorem hasContent_iff : hasContent s = true ↔ ∃ x ∈ s.toList, Text.isBlank x = false := by
  simp [hasContent, Text.trim_eq_nil_iff]

/-- Solicitor by solicitor, in order and with repetitions: each adds the address that it has, if
the address has content. -/
theorem respondentEmails_eq (c : CaseRecord) :
    c.respondentEmails = c.solicitors.filterMap fun e => e.value.email.filter hasContent := by
  rw [respondentEmails, List.filter_filterMap]

theorem mem_respondentEmails_iff : s ∈ c.respondentEmails ↔
    hasContent s = true ∧ ∃ e ∈ c.solicitors, e.value.email = some s := by
  simp [respondentEmails, and_comm]

end

/-! ## Wire form -/

/-- The layout of the typed fields. -/
def layout {τ : Type} [Json.Readable τ] : Layout τ CaseRecord (Object → CaseRecord) :=
  (fun reference state parentLink uncloaked notice solicitors decision written request
      applications respondentView rest =>
    ⟨reference, state, parentLink, uncloaked, notice, solicitors, decision, written, request,
      applications, respondentView, rest, []⟩)
    <$> Layout.optional "ccdCaseReference" (·.reference) CaseReference.codec
    <*> Layout.optional "ccdState" (·.state) .string
    <*> Layout.optional "generalAppParentCaseLink" (·.parentLink) CaseLink.codec
    <*> Layout.optional "applicationIsUncloakedOnce" (·.uncloaked) YesNo.codec
    <*> Layout.optional "generalAppInformOtherParty" (·.notice) Notice.codec
    <*> Layout.collection "generalAppRespondentSolicitors" (·.solicitors)
      (Entry.codec Solicitor.codec)
    <*> Layout.optional "judicialDecision" (·.decision) JudicialDecision.codec
    <*> Layout.optional "judicialDecisionMakeOrderForWrittenRepresentations"
      (·.writtenRepresentations) WrittenRepresentations.codec
    <*> Layout.optional "judicialDecisionRequestMoreInfo" (·.informationRequest)
      InformationRequest.codec
    <*> Layout.collection "generalApplicationsDetails" (·.applications)
      (Entry.codec ApplicationSummary.codec)
    <*> Layout.collection "gaDetailsRespondentSol" (·.respondentView)
      (Entry.codec ApplicationSummary.codec)

/-- The wire form of a record. Cleared fields are no part of it. -/
def codec {τ : Type} [Json.Readable τ] : Codec τ CaseRecord :=
  .openRecord "CaseData" layout (·.rest)

/-- The members of a record's wire form. -/
def object (c : CaseRecord) : Object :=
  ((layout (τ := Json)).object c).override c.rest

end CaseRecord

end GeneralApplications

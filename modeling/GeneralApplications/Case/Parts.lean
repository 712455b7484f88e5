import GeneralApplications.Case.Reference

/-!
# Parts of a case

The pieces that case data is made of: collection entries, links between cases, notice to the other
party, legal representatives, and the summary of an application that its parent case holds.
-/

namespace GeneralApplications

open Json (Codec Layout Object)

/-- The answer to a yes-or-no question. -/
inductive YesNo where
  | yes
  | no
  deriving DecidableEq, Repr

/-- One entry of a collection. A new entry has no id until the platform assigns one. -/
structure Entry (α : Type) where
  id : Option String
  value : α
  deriving DecidableEq, Repr

/-- A link to another case. -/
structure CaseLink where
  reference : Option String
  deriving DecidableEq, Repr

/-- Whether the other party is told about an application. -/
structure Notice where
  withNotice : Option YesNo
  reasonWithout : Option String
  deriving DecidableEq, Repr

/-- A respondent's legal representative. -/
structure Solicitor where
  id : Option String
  email : Option String
  organisation : Option String
  deriving DecidableEq, Repr

/-- What a parent case holds about an application filed on it; `rest` keeps what this service does
not know. -/
structure ApplicationSummary where
  type : Option String
  link : Option CaseLink
  state : Option String
  claimantApplies : Option YesNo
  rest : Object
  deriving DecidableEq, Repr

/-! ## Links -/

/-- The case a link leads to, if its reference can be read. -/
def CaseLink.target (l : CaseLink) : Option CaseReference :=
  l.reference.bind CaseReference.ofText?

/-- The summary is about the given application. -/
def ApplicationSummary.linksTo (s : ApplicationSummary) (child : CaseReference) : Bool :=
  s.link.bind CaseLink.target = some child

/-- An entry that the platform has not seen yet. -/
def Entry.new {α : Type} (value : α) : Entry α :=
  ⟨none, value⟩

/-! ## Wire forms -/

section
variable {τ : Type} [Json.Readable τ]

/-- The written answer. -/
def YesNo.name : YesNo → String
  | yes => "Yes"
  | no => "No"

/-- Answers are written as words. -/
def YesNo.codec : Codec τ YesNo :=
  .named [.yes, .no] YesNo.name

/-- The wire form of an entry. -/
def Entry.codec {α : Type} (c : Codec τ α) : Codec τ (Entry α) :=
  .record "Element" <| Entry.mk
    <$> Layout.optional "id" (·.id) .string
    <*> Layout.required "value" (·.value) c

/-- The wire form of a link. -/
def CaseLink.codec : Codec τ CaseLink :=
  .record "CaseLink" <| CaseLink.mk <$> Layout.optional "CaseReference" (·.reference) .string

/-- The wire form of a notice. -/
def Notice.codec : Codec τ Notice :=
  .record "InformOtherParty" <| Notice.mk
    <$> Layout.optional "isWithNotice" (·.withNotice) YesNo.codec
    <*> Layout.optional "reasonForWithoutNotice" (·.reasonWithout) .string

/-- The wire form of a legal representative. -/
def Solicitor.codec : Codec τ Solicitor :=
  .record "SolicitorDetails" <| Solicitor.mk
    <$> Layout.optional "id" (·.id) .string
    <*> Layout.optional "email" (·.email) .string
    <*> Layout.optional "organisationIdentifier" (·.organisation) .string

/-- The wire form of a summary. -/
def ApplicationSummary.codec : Codec τ ApplicationSummary :=
  .openRecord "GeneralApplicationsDetails"
    (ApplicationSummary.mk
      <$> Layout.optional "generalApplicationType" (·.type) .string
      <*> Layout.optional "caseLink" (·.link) CaseLink.codec
      <*> Layout.optional "caseState" (·.state) .string
      <*> Layout.optional "parentClaimantIsApplicant" (·.claimantApplies) YesNo.codec)
    (·.rest)

end

end GeneralApplications

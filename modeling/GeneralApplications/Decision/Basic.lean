import GeneralApplications.Calendar.Text
import GeneralApplications.Json.Codec

/-!
# A judge's decision

What a judge decides on an application, and the two decisions that set a deadline: an order for
written representations and a request for more information. A deadline is a date as text; a text
that is no date is rejected with the reader's own wording.
-/

namespace GeneralApplications

open Json (Codec Layout)

/-- The kinds of decision. -/
inductive Ruling where
  | makeAnOrder
  | requestMoreInfo
  | listForAHearing
  | makeOrderForWrittenRepresentations
  deriving DecidableEq, Repr

/-- The decision stored on an application. -/
structure JudicialDecision where
  ruling : Ruling
  deriving DecidableEq, Repr

/-- Whether the parties make their representations one after the other or at the same time. -/
inductive Manner where
  | sequential
  | concurrent
  deriving DecidableEq, Repr

/-- An order for written representations. It has one deadline, the one of its manner. -/
structure WrittenRepresentations where
  manner : Manner
  deadline : Option Date
  deriving DecidableEq, Repr

/-- What is asked for in a request for more information. -/
inductive InformationRequest.Action where
  | requestMoreInformation
  | sendToOtherParty
  deriving DecidableEq, Repr

/-- A request for more information from the applicant. -/
structure InformationRequest where
  action : InformationRequest.Action
  question : Option String
  deadline : Option Date
  deriving DecidableEq, Repr

/-! ## Wire forms -/

/-- The wire name of a kind of decision. -/
def Ruling.name : Ruling → String
  | makeAnOrder => "MAKE_AN_ORDER"
  | requestMoreInfo => "REQUEST_MORE_INFO"
  | listForAHearing => "LIST_FOR_A_HEARING"
  | makeOrderForWrittenRepresentations => "MAKE_ORDER_FOR_WRITTEN_REPRESENTATIONS"

/-- The wire name of a manner. -/
def Manner.name : Manner → String
  | sequential => "SEQUENTIAL_REPRESENTATIONS"
  | concurrent => "CONCURRENT_REPRESENTATIONS"

/-- The wire name of an action. -/
def InformationRequest.Action.name : InformationRequest.Action → String
  | requestMoreInformation => "REQUEST_MORE_INFORMATION"
  | sendToOtherParty => "SEND_APP_TO_OTHER_PARTY"

section
variable {τ : Type} [Json.Readable τ]

/-- Dates are written as text. -/
def Date.codec : Codec τ Date where
  decode t := do
    match ← Json.lift (Json.Readable.node t) with
    | .string s => (Date.ofText s).mapError fun e => .here (.refused e.message)
    | other => Json.mistyped other "a formatted date string"
  encode d := .string d.text

/-- The wire form of a kind of decision. -/
def Ruling.codec : Codec τ Ruling :=
  .named
    [.makeAnOrder, .requestMoreInfo, .listForAHearing, .makeOrderForWrittenRepresentations]
    Ruling.name

/-- The wire form of a decision. -/
def JudicialDecision.codec : Codec τ JudicialDecision :=
  .record "JudicialDecision" <| JudicialDecision.mk
    <$> Layout.required "decision" (·.ruling) Ruling.codec

/-- The wire form of a manner. -/
def Manner.codec : Codec τ Manner :=
  .named [.sequential, .concurrent] Manner.name

namespace WrittenRepresentations

/-- The deadline, if the order is in the given manner. -/
def deadlineIf (manner : Manner) (d : WrittenRepresentations) : Option Date :=
  if d.manner = manner then d.deadline else none

/-- An order in which each manner has a field for its deadline; the one that was not chosen is
left aside. -/
def select (manner : Manner) (sequential concurrent : Option Date) : WrittenRepresentations :=
  match manner with
  | .sequential => ⟨.sequential, sequential⟩
  | .concurrent => ⟨.concurrent, concurrent⟩

/-- The wire form of an order for written representations. -/
def codec : Codec τ WrittenRepresentations :=
  .record "WrittenRepresentationsFields" <| select
    <$> Layout.required "writtenOption" (·.manner) Manner.codec
    <*> Layout.optional "writtenSequentialRepresentationsBy" (deadlineIf .sequential) Date.codec
    <*> Layout.optional "writtenConcurrentRepresentationsBy" (deadlineIf .concurrent) Date.codec

end WrittenRepresentations

/-- The wire form of an action. -/
def InformationRequest.Action.codec : Codec τ InformationRequest.Action :=
  .named [.requestMoreInformation, .sendToOtherParty] InformationRequest.Action.name

/-- The wire form of a request for more information. -/
def InformationRequest.codec : Codec τ InformationRequest :=
  .record "RequestMoreInfo" <| InformationRequest.mk
    <$> Layout.required "requestMoreInfoOption" (·.action) InformationRequest.Action.codec
    <*> Layout.optional "judgeRequestMoreInfoText" (·.question) .string
    <*> Layout.optional "judgeRequestMoreInfoByDate" (·.deadline) Date.codec

end

end GeneralApplications

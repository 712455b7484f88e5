import GeneralApplications.Case.Record
import GeneralApplications.Config.Flags
import GeneralApplications.Mail.Sender

/-!
# Notifying respondents by mail

The solicitors of the respondents are told that a judge has decided an application: one email to
each address, in order, until one of them fails. Nothing is sent while the flag is off, for an
application that the respondents may not hear of, or without addresses.
-/

namespace GeneralApplications.Mail

open Http (Exchange)

/-- What an email calls a decision. -/
def decisionLabel (decision : Option JudicialDecision) : String :=
  match decision with
  | none => "Decision recorded"
  | some d =>
    match d.ruling with
    | .makeAnOrder => "Make an order"
    | .requestMoreInfo => "Request more information"
    | .listForAHearing => "List for a hearing"
    | .makeOrderForWrittenRepresentations => "Make an order for written representations"

/-- The page that tells a solicitor about a decision. -/
def decisionPage (reference decision app : String) : String :=
  "\n".intercalate [
    "<!DOCTYPE html>",
    "<html>",
    "<head><meta charset=\"utf-8\"></head>",
    "<body style=\"font-family: Arial, sans-serif; color: #0b0c0c; padding: 20px;\">",
    "  <div style=\"max-width: 600px; margin: 0 auto; border-top: 10px solid #1d70b8; " ++
      "padding: 30px;\">",
    "    <h1>A judge has made a decision on an application</h1>",
    "    <p>Application reference: <strong>" ++ reference ++ "</strong></p>",
    "    <p>Decision: " ++ decision ++ "</p>",
    "    <p>Sign in to view the order and any directions you must follow.</p>",
    "    <p style=\"color: #505a5f; font-size: 12px;\">This is an automated message from " ++ app ++
      ". Do not reply.</p>",
    "  </div>",
    "</body>",
    "</html>"]

/-- The email about a decision to one address. -/
def decisionEmail (env : Environment) (c : CaseRecord) (recipient : String) : Email :=
  let reference := (c.reference.map (·.text)).getD ""
  let app := appName env
  { recipient
    subject := "[" ++ app ++ "] Decision made on application " ++ reference
    html := decisionPage reference (decisionLabel c.decision) app }

/-- Sends emails one after another until one fails. -/
def sendAll (env : Environment) : List Email → ExceptT SendError Exchange Unit
  | [] => return ()
  | e :: rest => do
    send env e
    sendAll env rest

/-- Notifies the respondents of a case. -/
def notifyRespondents (flags : FeatureFlags) (env : Environment) (c : CaseRecord) :
    ExceptT SendError Exchange Unit :=
  if flags.mailgun && c.respondentsMayBeNotified then
    sendAll env (c.respondentEmails.map (decisionEmail env c))
  else return ()

end GeneralApplications.Mail

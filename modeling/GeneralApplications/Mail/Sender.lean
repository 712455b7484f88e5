import GeneralApplications.Config.Environment
import GeneralApplications.Http.Exchange
import GeneralApplications.Http.Percent
import GeneralApplications.Http.Status
import GeneralApplications.Text.Base64

/-!
# Sending mail

An email is sent by a request to the mail provider, whose domain and key come from the environment.
The error texts are those that a failed notification reports as its cause.
-/

namespace GeneralApplications.Mail

open Http (Outgoing Exchange TransportError)

/-- An email. -/
structure Email where
  recipient : String
  subject : String
  html : String
  deriving DecidableEq, Repr

/-- Why an email was not sent. -/
inductive SendError where
  | unconfigured (u : Unconfigured)
  | transport (e : TransportError)
  /-- The provider refused it. -/
  | refused (status : Nat) (body : String)
  deriving DecidableEq, Repr

/-- The wording of an error. -/
def SendError.message : SendError → String
  | unconfigured u => u.message
  | transport e => "Mailgun request failed: " ++ e.message
  | refused status body => "Mailgun API error (" ++ Http.statusText status ++ "): " ++ body

/-- The name of the service in its emails. -/
def appName (env : Environment) : String :=
  (env.get? "APP_NAME").getD "General Applications"

/-- The provider's domain. -/
def domain (env : Environment) : Except Unconfigured String :=
  env.require "MAILGUN_DOMAIN"

/-- The provider's key. -/
def apiKey (env : Environment) : Except Unconfigured String :=
  env.require "MAILGUN_API_KEY"

/-- The sender's address: its own variable, or one made of the service's name and the domain. -/
def sender (env : Environment) (domain : String) : String :=
  (env.get? "MAILGUN_FROM").getD (appName env ++ " <noreply@" ++ domain ++ ">")

/-- The value of the header that gives user name and password. -/
def basicCredentials (user password : String) : String :=
  "Basic " ++ String.ofList (Text.base64 (Http.utf8 (user ++ ":" ++ password)))

/-- The request that sends an email. -/
def request (env : Environment) (e : Email) : Except SendError Outgoing := do
  let domain ← (domain env).mapError .unconfigured
  let key ← (apiKey env).mapError .unconfigured
  (Outgoing.ofParts "POST" ("https://api.mailgun.net/v3/" ++ domain ++ "/messages")
    [("authorization", basicCredentials "api" key),
     ("content-type", "application/x-www-form-urlencoded")]
    (some (.form [("from", sender env domain), ("to", e.recipient), ("subject", e.subject),
      ("html", e.html)]))).mapError .transport

/-- Sends an email. -/
def send (env : Environment) (e : Email) : ExceptT SendError Exchange Unit :=
  .mk do
    match request env e with
    | .error error => return .error error
    | .ok r =>
      match ← r.send.run with
      | .error error => return .error (.transport error)
      | .ok (status, body) =>
        if Http.isSuccess status then return .ok ()
        else return .error (.refused status (body.getD ""))

end GeneralApplications.Mail

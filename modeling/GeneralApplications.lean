import GeneralApplications.Api.Description
import GeneralApplications.Api.Service
import GeneralApplications.Calendar.Date
import GeneralApplications.Calendar.Text
import GeneralApplications.Callback.Handlers
import GeneralApplications.Callback.Message
import GeneralApplications.Callback.Registry
import GeneralApplications.Callback.Stage
import GeneralApplications.Case.ApplicationState
import GeneralApplications.Case.Conversion
import GeneralApplications.Case.Event
import GeneralApplications.Case.Parts
import GeneralApplications.Case.Record
import GeneralApplications.Case.Reference
import GeneralApplications.Case.Snapshot
import GeneralApplications.Config.Dotenv
import GeneralApplications.Config.Environment
import GeneralApplications.Config.Flags
import GeneralApplications.Config.Settings
import GeneralApplications.Decision.Basic
import GeneralApplications.Decision.Deadlines
import GeneralApplications.Dialogue
import GeneralApplications.Errand
import GeneralApplications.Failure
import GeneralApplications.Http.Domain
import GeneralApplications.Http.Domain.Composition
import GeneralApplications.Http.Domain.Direction
import GeneralApplications.Http.Domain.Expansions
import GeneralApplications.Http.Domain.Joining
import GeneralApplications.Http.Domain.Letters
import GeneralApplications.Http.Domain.Mapping
import GeneralApplications.Http.Domain.Punycode
import GeneralApplications.Http.Exchange
import GeneralApplications.Http.Host
import GeneralApplications.Http.MediaType
import GeneralApplications.Http.Message
import GeneralApplications.Http.Percent
import GeneralApplications.Http.Service
import GeneralApplications.Http.Status
import GeneralApplications.Http.Url
import GeneralApplications.Json.Basic
import GeneralApplications.Json.Codec
import GeneralApplications.Json.Document
import GeneralApplications.Json.Numeral
import GeneralApplications.Json.Object
import GeneralApplications.Json.ParseError
import GeneralApplications.Json.Pointer
import GeneralApplications.Json.Printer
import GeneralApplications.Json.Reading
import GeneralApplications.Logging.Filter
import GeneralApplications.Logging.Pattern
import GeneralApplications.Logging.Start
import GeneralApplications.Mail.Notification
import GeneralApplications.Mail.Sender
import GeneralApplications.Main
import GeneralApplications.Number.Binary64
import GeneralApplications.Number.Shortest
import GeneralApplications.ParentUpdate
import GeneralApplications.Platform.Client
import GeneralApplications.Platform.InMemory
import GeneralApplications.Text.Alphanumeric
import GeneralApplications.Text.Base64
import GeneralApplications.Text.Blank
import GeneralApplications.Text.Digits
import GeneralApplications.Text.Pieces
import GeneralApplications.Text.Printable
import GeneralApplications.Text.Quoted
import GeneralApplications.Text.Scanner
import GeneralApplications.Text.Table
import GeneralApplications.Toml.Document
import GeneralApplications.Toml.Scalar
import GeneralApplications.Toml.Tree
import GeneralApplications.Proofs.Json.Fields
import GeneralApplications.Proofs.Json.Path
import GeneralApplications.Proofs.Json.Retention
import GeneralApplications.Proofs.Case.Fields
import GeneralApplications.Proofs.Case.Retention
import GeneralApplications.Proofs.Case.Conversion
import GeneralApplications.Proofs.Json.Parts
import GeneralApplications.Proofs.Json.RoundTrip
import GeneralApplications.Proofs.Platform.Run
import GeneralApplications.Proofs.Update.Frame
import GeneralApplications.Proofs.Platform.Versioned
import GeneralApplications.Proofs.Update.Serialisation
import GeneralApplications.Proofs.Service.Callback
import GeneralApplications.Proofs.Service.Collaborators
import GeneralApplications.Proofs.Service.Session
import GeneralApplications.Proofs.Service.Effects
import GeneralApplications.Proofs.Service.Disclosure
import GeneralApplications.Proofs.Calendar.Text
import GeneralApplications.Proofs.Case.Apart
import GeneralApplications.Proofs.Case.Rewriting
import GeneralApplications.Proofs.Update.Agreement
import GeneralApplications.Proofs.Http.Url
import GeneralApplications.Proofs.Http.Host
import GeneralApplications.Proofs.Platform.Client
import GeneralApplications.Proofs.Wire.Stability
import GeneralApplications.Proofs.Update.OverHttp
import GeneralApplications.Proofs.Service.Checks
import GeneralApplications.Proofs.Service.Metadata
import GeneralApplications.Proofs.Service.Echo
import GeneralApplications.Proofs.Mail.Notification
import GeneralApplications.Proofs.Callback.History
import GeneralApplications.Proofs.Update.Steps
import GeneralApplications.Proofs.Service.Contract
import GeneralApplications.Proofs.Json.Visiting
import GeneralApplications.Proofs.Decision.Unselected
import GeneralApplications.Proofs.Service.DecisionPage
import GeneralApplications.Proofs.Case.Reference
import GeneralApplications.Proofs.Decision.Deadlines
import GeneralApplications.Proofs.Config.Flags

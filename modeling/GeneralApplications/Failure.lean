import GeneralApplications.Json.Codec

/-!
# Failures

The one error that every part of the service returns: its kind, a message, and possibly the error
of a collaborator that caused it. The kind decides the HTTP status.
-/

namespace GeneralApplications

open Json (Codec Layout)

/-- The kinds of failure. -/
inductive Failure.Kind where
  | notFound
  | badRequest
  | unauthorized
  | forbidden
  | notificationFailure
  | platformFailure
  | internalError
  deriving DecidableEq, Repr

/-- A failure. -/
structure Failure where
  kind : Failure.Kind
  message : String
  cause : Option String
  deriving DecidableEq, Repr

namespace Failure

/-- The written name of a kind. -/
def Kind.name : Kind → String
  | notFound => "NotFound"
  | badRequest => "BadRequest"
  | unauthorized => "Unauthorized"
  | forbidden => "Forbidden"
  | notificationFailure => "NotificationFailure"
  | platformFailure => "UpstreamError"
  | internalError => "InternalError"

/-- The HTTP status of a kind. -/
def Kind.status : Kind → Nat
  | notFound => 404
  | badRequest => 400
  | unauthorized => 401
  | forbidden => 403
  | notificationFailure => 502
  | platformFailure => 502
  | internalError => 500

/-- Every kind, in declaration order. -/
def Kind.all : List Kind :=
  [notFound, badRequest, unauthorized, forbidden, notificationFailure, platformFailure,
   internalError]

/-- A failure without a cause. -/
def of (kind : Kind) (message : String) : Failure :=
  ⟨kind, message, none⟩

/-- The failure with a cause in place of the one it has. -/
def withCause (f : Failure) (cause : String) : Failure :=
  { f with cause := some cause }

/-- A notification could not be sent; the sender's error is the cause. -/
def notification (cause : String) : Failure :=
  (of .notificationFailure "Failed to send respondent notification").withCause cause

/-- Case data could not be read or written. -/
def shape (cause : String) : Failure :=
  (of .badRequest "Case data does not match the expected shape").withCause cause

/-- The failure in one line. -/
def text (f : Failure) : String :=
  match f.cause with
  | some cause => f.kind.name ++ ": " ++ f.message ++ " (" ++ cause ++ ")"
  | none => f.kind.name ++ ": " ++ f.message

/-- The HTTP status that reports the failure. -/
def status (f : Failure) : Nat :=
  f.kind.status

/-- The wire form of a failure. -/
def codec {τ : Type} [Json.Readable τ] : Codec τ Failure :=
  .record "AppError" <| Failure.mk
    <$> Layout.required "kind" (·.kind)
      (.named Kind.all Kind.name)
    <*> Layout.required "message" (·.message) .string
    <*> Layout.optional "cause" (·.cause) .string

end Failure

end GeneralApplications

import GeneralApplications.Config.Environment
import GeneralApplications.Text.Digits

/-!
# Settings

What the service takes from its environment: how to reach the case-data platform, and the port on
which it listens. Its version is fixed.
-/

namespace GeneralApplications

/-- The version of the service. -/
def version : String := "0.1.0"

/-- How to reach the case-data platform. -/
structure PlatformSettings where
  baseUrl : String
  userToken : String
  serviceToken : String
  deriving DecidableEq, Repr

/-- The text without slashes at its end. -/
def dropEndSlashes (s : String) : String :=
  String.ofList (s.toList.reverse.dropWhile (· = '/')).reverse

/-- The platform's settings; the first variable that is missing is reported. -/
def PlatformSettings.ofEnvironment (env : Environment) :
    Except Unconfigured PlatformSettings := do
  let baseUrl ← env.require "CCD_DATA_STORE_URL"
  let userToken ← env.require "CCD_SYSTEM_USER_TOKEN"
  let serviceToken ← env.require "CCD_SERVICE_AUTH_TOKEN"
  return ⟨dropEndSlashes baseUrl, userToken, serviceToken⟩

/-- The port on which the service listens unless told otherwise. -/
def defaultPort : Nat := 4550

/-- The port on which the service listens; one that cannot be read does not count. -/
def listenPort (env : Environment) : Nat :=
  ((env.get? "PORT").bind fun s => Text.unsigned? 65536 s.toList).getD defaultPort

end GeneralApplications

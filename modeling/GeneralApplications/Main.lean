import GeneralApplications.Api.Service
import GeneralApplications.Json.Printer

/-!
# Command line

Prints the description of the service's API.
-/

namespace GeneralApplications.Api

/-- The OpenAPI document with each member on a line of its own. -/
def document : String :=
  service.toJson.pretty 0

end GeneralApplications.Api

/-- Prints the OpenAPI document. -/
def main : IO Unit :=
  IO.println GeneralApplications.Api.document

import GeneralApplications.Config.Settings
import GeneralApplications.Json.Basic
import GeneralApplications.Logging.Filter

/-!
# Starting to log

Logging is set up once; the first setup also writes the first line, if its filter lets that line
through. The filter comes from the environment, or is the default one. No logging begins with a filter
that would have to split a character.
-/

namespace GeneralApplications.Logging

/-- The filter in force unless the environment gives a valid one. -/
def defaultFilter : Filter :=
  ⟨[⟨none, none, [], .info⟩, ⟨some "server", none, [], .debug⟩]⟩

/-- The filter in force, if logging can begin. -/
def filter? (env : Environment) : Option Filter :=
  match (env.get? "RUST_LOG").map Filter.ofText with
  | none => some defaultFilter
  | some (.ok f) => some f
  | some (.error .invalid) => some defaultFilter
  | some (.error .splitCharacter) => none

/-- The event with which logging begins. -/
def initialized : Event :=
  ⟨"server::logging", .info, ["message", "json", "version"]⟩

/-- A written line. -/
inductive Line where
  | json (line : Json)
  | plain (line : String)
  deriving DecidableEq, Repr

/-- The first line. -/
def firstLine (json : Bool) : Line :=
  if json then
    .json (.object [("level", .string "INFO"),
      ("fields", .object [("message", .string "Logging initialized"), ("json", .bool json),
        ("version", .string version)]),
      ("target", .string initialized.target)])
  else
    .plain ("INFO " ++ initialized.target ++ ": Logging initialized json=" ++ toString json ++
      " version=\"" ++ version ++ "\"")

/-- The lines written when logging is set up once for each of the given formats. -/
def start (env : Environment) (formats : List Bool) : List Line :=
  match formats with
  | [] => []
  | json :: _ => if (filter? env).elim false (·.passes initialized) then [firstLine json] else []

end GeneralApplications.Logging

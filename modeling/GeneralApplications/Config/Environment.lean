/-!
# Environment variables

The variables that a process is started with, and those that are added later.
-/

namespace GeneralApplications

/-- The variables of a process: names with their values, the first of a name counting. -/
structure Environment where
  entries : List (String × String)
  deriving DecidableEq, Repr

/-- A variable that has to be set and is not. -/
structure Unconfigured where
  name : String
  deriving DecidableEq, Repr

/-- The wording of the error. -/
def Unconfigured.message (u : Unconfigured) : String :=
  u.name ++ " is not configured"

namespace Environment

/-- The value of a variable. -/
def get? (env : Environment) (name : String) : Option String :=
  (env.entries.find? (·.1 = name)).map (·.2)

/-- The value of a variable that has to be set. -/
def require (env : Environment) (name : String) : Except Unconfigured String :=
  match env.get? name with
  | some v => .ok v
  | none => .error ⟨name⟩

/-- The environment with a variable set, unless it is set already. -/
def setIfAbsent (env : Environment) (name value : String) : Environment :=
  match env.get? name with
  | some _ => env
  | none => ⟨env.entries ++ [(name, value)]⟩

end Environment

end GeneralApplications

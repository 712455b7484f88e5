import GeneralApplications.Json.Codec

/-!
# Callback stages

The moments of an event at which the platform calls this service back.
-/

namespace GeneralApplications

/-- A stage of an event. -/
inductive CallbackStage where
  | aboutToStart
  | mid
  | aboutToSubmit
  | submitted
  deriving DecidableEq, Repr

namespace CallbackStage

/-- Every stage, in the order in which an event passes through them. -/
def all : List CallbackStage :=
  [aboutToStart, mid, aboutToSubmit, submitted]

/-- The name of a stage. -/
def name : CallbackStage → String
  | aboutToStart => "about-to-start"
  | mid => "mid"
  | aboutToSubmit => "about-to-submit"
  | submitted => "submitted"

/-- The stage with a name. -/
def ofName? (s : String) : Option CallbackStage :=
  all.find? (·.name = s)

theorem ofName?_eq_some_iff {s : String} {t : CallbackStage} :
    ofName? s = some t ↔ t.name = s := by
  constructor
  · intro h
    simpa using List.find?_some h
  · rintro rfl
    cases t <;> decide

/-- The wire form of a stage. -/
def codec {τ : Type} [Json.Readable τ] : Json.Codec τ CallbackStage :=
  .named all name

end CallbackStage

end GeneralApplications

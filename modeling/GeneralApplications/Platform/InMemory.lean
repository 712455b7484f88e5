import GeneralApplications.Errand

/-!
# A platform in memory

A case-data platform that holds one parent case and takes every errand as one on that case,
together with a sender that only notes what it was to send. It issues a fresh token for every
started event and keeps a list of the errands it was given. Disruptions make it fail on purpose;
an errand is noted before it fails.
-/

namespace GeneralApplications

/-- The failures that take the place of results. -/
structure Disruption where
  start : Option Failure
  submit : Option Failure
  sender : Option String
  deriving DecidableEq, Repr

/-- Nothing fails on purpose. -/
def Disruption.none : Disruption :=
  ⟨.none, .none, .none⟩

/-- The platform: its parent case, if it has one, and how many events were started. -/
structure Platform where
  parent : Option CaseSnapshot
  started : Nat
  deriving DecidableEq, Repr

namespace Platform

/-- A platform without a case. -/
def vacant : Platform :=
  ⟨none, 0⟩

/-- The token of the `n`-th started event. -/
def token (n : Nat) : String :=
  "token-" ++ toString n

/-- The platform with other data on its parent case. -/
def store (p : Platform) (data : Json.Object) : Platform :=
  { p with parent := p.parent.map fun s => { s with data := data } }

/-- What comes of an errand, and the platform after it. -/
def carryOut (d : Disruption) (p : Platform) : (e : Errand) → e.Outcome × Platform
  | .start _ _ =>
    match d.start, p.parent with
    | some failure, _ => (.error failure, p)
    | none, none => (.error (.of .notFound "no parent"), p)
    | none, some parent =>
      (.ok ⟨token (p.started + 1), parent, none⟩, { p with started := p.started + 1 })
  | .submit _ content =>
    match d.submit, p.parent with
    | some failure, _ => (.error failure, p)
    | none, none => (.error (.of .notFound "no parent"), p)
    | none, some parent => (.ok { parent with data := content.data }, p.store content.data)
  | .notify _ =>
    match d.sender with
    | some error => (.error error, p)
    | none => (.ok (), p)

/-- A platform with the errands that it was given, last one first. -/
structure Journal where
  platform : Platform
  errands : List Errand

/-- Carries an errand out and notes it. -/
def note (d : Disruption) (e : Errand) : StateM Journal e.Outcome := fun j =>
  let (outcome, platform) := j.platform.carryOut d e
  (outcome, ⟨platform, e :: j.errands⟩)

/-- Runs a computation against a platform: its result, the errands it ran, in order, and the
platform afterwards. -/
def run {α : Type} (d : Disruption) (p : Platform) (m : Errands α) : α × List Errand × Platform :=
  let (a, j) := m.interpret (note d) ⟨p, []⟩
  (a, j.errands.reverse, j.platform)

end Platform

end GeneralApplications

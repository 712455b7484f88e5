import GeneralApplications.Case.Snapshot
import GeneralApplications.Failure

/-!
# Snapshots and records

A record is read from a snapshot: the envelope decides the reference and the state, whatever the
data says about them. Written back as data, a record leaves these two out, and every field that
arrived as an explicit `null` and has no value since is `null` again.
-/

namespace GeneralApplications

open Json (Codec Object)

/-- The keys under which a record holds what the envelope decides. -/
def CaseRecord.envelopeKeys : List String :=
  ["ccdCaseReference", "ccdState"]

namespace CaseSnapshot

/-- The data with the envelope's reference and state in place of its own. -/
def recordObject (s : CaseSnapshot) : Object :=
  let data := s.data.insert "ccdCaseReference" (.ofInt s.id.number)
  match s.state with
  | some state => data.insert "ccdState" (.string state)
  | none => data.erase "ccdState"

/-- The keys of an object whose value is `null`. -/
def nullKeys (o : Object) : List String :=
  (o.entries.filter fun m => m.2.isNull).map (·.1)

/-- The record of a snapshot. Unknown fields keep their `null` anyway, so only typed fields are
listed as cleared. -/
def toRecord (s : CaseSnapshot) : Except Failure CaseRecord :=
  let data := s.recordObject
  match (CaseRecord.codec : Codec Json CaseRecord).decode data.toJson with
  | .error r => .error (.shape r.message)
  | .ok c => .ok { c with cleared := (nullKeys data).filter fun k => !c.rest.contains k }

end CaseSnapshot

namespace CaseRecord

/-- The object with `null` under a key that it does not have. -/
def clearIfAbsent (o : Object) (k : String) : Object :=
  if o.contains k then o else o.insert k .null

/-- The record as data for the platform. -/
def toData (c : CaseRecord) : Object :=
  envelopeKeys.foldl (·.erase ·) (c.cleared.foldl clearIfAbsent c.object)

end CaseRecord

end GeneralApplications

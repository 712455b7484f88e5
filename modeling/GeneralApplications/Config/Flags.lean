import GeneralApplications.Json.Codec
import GeneralApplications.Toml.Document

/-!
# Feature flags

Which optional parts of the service are active. The flags come from a configuration file and fail
closed: without a file, or with one that is not a TOML document of the right form, all of them are
off. A process takes its flags from the first file it loads and keeps them.
-/

namespace GeneralApplications

open Json (Codec Layout)
open Toml (Tree Members)

/-- The flags. -/
structure FeatureFlags where
  /-- Notifications are sent by email. -/
  mailgun : Bool
  /-- Log lines are written as JSON. -/
  jsonLogs : Bool
  deriving DecidableEq, Repr

namespace FeatureFlags

/-- Everything off. -/
def off : FeatureFlags :=
  ⟨false, false⟩

/-! ## Wire form -/

/-- The wire form of the flags. -/
def codec {τ : Type} [Json.Readable τ] : Codec τ FeatureFlags :=
  .record "FeatureFlags" <| FeatureFlags.mk
    <$> Layout.defaulted "mailgun" [] false (·.mailgun) .bool
    <*> Layout.defaulted "json_logs" [] false (·.jsonLogs) .bool

/-! ## Configuration files -/

/-- The truth value of a flag; other values are refused. -/
def flag? : Tree → Option Bool
  | .boolean b => some b
  | .scalar | .array _ | .inlineTable _ | .table _ _ | .tables _ => none

/-- A flag that may be left out. -/
def flagOrOff (t : Option Tree) : Option Bool :=
  t.elim (some false) flag?

/-- The flags of a table, by their names. -/
def ofMembers? (ms : Members) : Option FeatureFlags := do
  return ⟨← flagOrOff (ms.get? "mailgun"), ← flagOrOff (ms.get? "json_logs")⟩

/-- The flags of a list, by their positions. -/
def ofItems? (items : List Tree) : Option FeatureFlags := do
  return ⟨← flagOrOff items[0]?, ← flagOrOff items[1]?⟩

/-- The flags that a value under `features` sets. -/
def ofTree? : Tree → Option FeatureFlags
  | .table _ ms => ofMembers? ms
  | .inlineTable ms => ofMembers? ms
  | .array items => ofItems? items
  | .boolean _ | .scalar | .tables _ => none

/-- The flags of a configuration text, if it is of the right form. -/
def ofText? (s : String) : Option FeatureFlags := do
  let ms ← Toml.parse s
  (ms.get? "features").elim (some off) ofTree?

/-- The flags of a configuration file that may be missing. -/
def ofFile (file : Option String) : FeatureFlags :=
  (file.bind ofText?).getD off

/-! ## A process -/

/-- The flags of a process that has or has not loaded them. -/
structure Loaded where
  flags : Option FeatureFlags
  deriving DecidableEq, Repr

/-- A process that has not loaded its flags. -/
def Loaded.never : Loaded := ⟨none⟩

/-- Loads the flags; only the first time counts. -/
def Loaded.load (l : Loaded) (file : Option String) : Loaded :=
  match l.flags with
  | some _ => l
  | none => ⟨some (ofFile file)⟩

/-- The flags in force. -/
def Loaded.current (l : Loaded) : FeatureFlags :=
  l.flags.getD off

end FeatureFlags

/-- The content of a configuration file. -/
structure Configuration where
  features : FeatureFlags
  deriving DecidableEq, Repr

/-- The wire form of a configuration. -/
def Configuration.codec {τ : Type} [Json.Readable τ] : Codec τ Configuration :=
  .record "AppConfig" <| Configuration.mk
    <$> Layout.defaulted "features" [] .off (·.features) FeatureFlags.codec

end GeneralApplications

import GeneralApplications.Mail.Notification

/-!
# Flags of a process

Which flags a configuration file switches on, for every text that it may hold: those that a
document of the right form sets to `true`, and none otherwise (`FeatureFlags.get_ofFile_iff`). The
form concerns the document as a whole, so one flag of a wrong type switches all of them off.

A process starts without flags; then its file is edited or removed, its flags are loaded and read,
and notifications are sent, in any order and any number of times. From one use to the next it is
kept that flags which were loaded stay, and that only a load brings flags. So what a process has at
any point was decided when it first loaded its flags (`Process.flags_law`).
-/

namespace GeneralApplications

open Toml (Tree Members)

/-! ## Configuration files -/

/-- A flag. -/
inductive FeatureFlag where
  | mailgun
  | jsonLogs
  deriving DecidableEq, Repr

/-- The key of a flag in a table. -/
def FeatureFlag.key : FeatureFlag → String
  | mailgun => "mailgun"
  | jsonLogs => "json_logs"

/-- The position of a flag in a list. -/
def FeatureFlag.position : FeatureFlag → Nat
  | mailgun => 0
  | jsonLogs => 1

theorem FeatureFlag.forall_iff {P : FeatureFlag → Prop} :
    (∀ flag, P flag) ↔ P .mailgun ∧ P .jsonLogs :=
  ⟨fun h => ⟨h .mailgun, h .jsonLogs⟩, fun h flag => flag.casesOn h.1 h.2⟩

/-- The value may set flags: it is a table or a list of values. -/
def Toml.Tree.IsSection : Tree → Prop
  | table _ _ | inlineTable _ | array _ => True
  | tables _ | boolean _ | scalar => False

/-- What a value sets a flag to. -/
def Toml.Tree.setting? (flag : FeatureFlag) : Tree → Option Tree
  | table _ ms | inlineTable ms => Members.get? ms flag.key
  | array items => items[flag.position]?
  | tables _ | boolean _ | scalar => none

/-- The form of a configuration: what it has under `features` is a table or a list, which sets flags
to truth values only. -/
def Toml.Members.IsConfiguration (ms : Members) : Prop :=
  ∀ t, ms.get? "features" = some t →
    t.IsSection ∧ ∀ flag v, t.setting? flag = some v → ∃ b, v = .boolean b

/-- The document sets the flag to `true`. -/
def Toml.Members.SwitchesOn (ms : Members) (flag : FeatureFlag) : Prop :=
  ∃ t, ms.get? "features" = some t ∧ t.setting? flag = some (.boolean true)

namespace FeatureFlags

/-- Whether a flag is on. -/
def get (flags : FeatureFlags) : FeatureFlag → Bool
  | .mailgun => flags.mailgun
  | .jsonLogs => flags.jsonLogs

theorem get_off (flag : FeatureFlag) : off.get flag = false := by
  cases flag <;> rfl

/-- A flag that may be left out is read if it is a truth value; then it is on if that is `true`. -/
theorem flagOrOff_eq_some_iff {t : Option Tree} {b : Bool} :
    flagOrOff t = some b ↔
      (∀ v, t = some v → ∃ b, v = .boolean b) ∧ (b = true ↔ t = some (.boolean true)) := by
  cases t with
  | none => simp [flagOrOff]
  | some v =>
    cases v with
    | boolean b' => cases b' <;> cases b <;> simp [flagOrOff, flag?]
    | _ => simp [flagOrOff, flag?]

theorem eq_some_iff_forall_get (read : FeatureFlag → Option Bool) {flags : FeatureFlags} :
    (do return ⟨← read .mailgun, ← read .jsonLogs⟩ : Option FeatureFlags) = some flags ↔
      ∀ flag, read flag = some (flags.get flag) := by
  obtain ⟨mailgun, jsonLogs⟩ := flags
  rw [FeatureFlag.forall_iff]
  cases read .mailgun <;> cases read .jsonLogs <;> simp [get]

/-- A value sets flags if it is a table or a list; there each flag is read for itself. -/
theorem ofTree?_eq_some_iff {t : Tree} {flags : FeatureFlags} :
    ofTree? t = some flags ↔
      t.IsSection ∧ ∀ flag, flagOrOff (t.setting? flag) = some (flags.get flag) := by
  rw [← eq_some_iff_forall_get fun flag => flagOrOff (t.setting? flag)]
  cases t with
  | table form ms => exact (and_iff_right trivial).symm
  | inlineTable ms => exact (and_iff_right trivial).symm
  | array items => exact (and_iff_right trivial).symm
  | tables items => simp [ofTree?, Toml.Tree.IsSection]
  | boolean b => simp [ofTree?, Toml.Tree.IsSection]
  | scalar => simp [ofTree?, Toml.Tree.IsSection]

theorem off_eq_iff {flags : FeatureFlags} : off = flags ↔ ∀ flag, flags.get flag = false := by
  obtain ⟨mailgun, jsonLogs⟩ := flags
  rw [FeatureFlag.forall_iff]
  cases mailgun <;> cases jsonLogs <;> simp [off, get]

/-- A document that is a configuration has the flags on that it switches on. -/
theorem ofDocument_eq_some_iff {ms : Members} {flags : FeatureFlags} :
    (ms.get? "features").elim (some off) ofTree? = some flags ↔
      ms.IsConfiguration ∧ ∀ flag, flags.get flag = true ↔ ms.SwitchesOn flag := by
  unfold Toml.Members.IsConfiguration Toml.Members.SwitchesOn
  cases ms.get? "features" with
  | none => simp [off_eq_iff]
  | some t => simp [ofTree?_eq_some_iff, flagOrOff_eq_some_iff, forall_and, and_assoc]

/-- Every configuration has flags. -/
theorem exists_ofDocument {ms : Members} (h : ms.IsConfiguration) :
    ∃ flags, (ms.get? "features").elim (some off) ofTree? = some flags := by
  classical
  refine ⟨⟨ms.SwitchesOn .mailgun, ms.SwitchesOn .jsonLogs⟩, ofDocument_eq_some_iff.2 ⟨h, ?_⟩⟩
  intro flag
  cases flag <;> exact decide_eq_true_iff

/-- A flag is on exactly if the file is there, is a document of the right form and sets the flag to
`true`. -/
theorem get_ofFile_iff {file : Option String} {flag : FeatureFlag} :
    (ofFile file).get flag = true ↔ ∃ text ms, file = some text ∧ Toml.parse text = some ms ∧
      ms.IsConfiguration ∧ ms.SwitchesOn flag := by
  constructor
  · intro hon
    cases hflags : file.bind ofText? with
    | none =>
      rw [ofFile, hflags, Option.getD_none, get_off] at hon
      cases hon
    | some flags =>
      rw [ofFile, hflags, Option.getD_some] at hon
      obtain ⟨text, htext, hflags⟩ := Option.bind_eq_some_iff.1 hflags
      obtain ⟨ms, hms, hflags⟩ := Option.bind_eq_some_iff.1 hflags
      obtain ⟨hform, hget⟩ := ofDocument_eq_some_iff.1 hflags
      exact ⟨text, ms, htext, hms, hform, (hget flag).1 hon⟩
  · rintro ⟨text, ms, rfl, hms, hform, hon⟩
    obtain ⟨flags, hflags⟩ := exists_ofDocument hform
    have hfile : ofFile (some text) = flags := by
      rw [ofFile, Option.bind_some, ofText?, hms]
      exact congrArg (Option.getD · off) hflags
    rw [hfile]
    exact ((ofDocument_eq_some_iff.1 hflags).2 flag).2 hon

/-- A flag of a wrong type switches off the one next to it. -/
example : ofFile (some "[features]\nmailgun = true\njson_logs = 1\n") = off := by decide +kernel

end FeatureFlags

/-! ## A process -/

/-- A process: its configuration file, which may be missing, and the flags it has loaded. -/
structure Process where
  file : Option String
  loaded : FeatureFlags.Loaded

/-- One use of a process. -/
inductive ProcessUse where
  /-- The file is written or removed. -/
  | edit (file : Option String)
  | load
  | read
  /-- The respondents of a case are notified; the provider gives the replies of a list. -/
  | notify (env : Environment) (c : CaseRecord) (replies : List Http.Reply)

namespace ProcessUse

/-- What a use gives back: the flags that are read, or what comes of a notification and the requests
that are sent for it. -/
abbrev Outcome : ProcessUse → Type
  | edit _ | load => Unit
  | read => FeatureFlags
  | notify _ _ _ => Except Mail.SendError Unit × List Http.Outgoing

/-- One use of a process. -/
def run : (u : ProcessUse) → StateM Process u.Outcome
  | edit file => modify fun p => { p with file }
  | load => modify fun p => { p with loaded := p.loaded.load p.file }
  | read => return (← get).loaded.current
  | notify env c replies =>
    return Http.Script.run replies (Mail.notifyRespondents (← get).loaded.current env c).run

end ProcessUse

namespace Process

variable {p : Process}

/-- A process that has not loaded its flags. -/
def start (file : Option String) : Process :=
  ⟨file, .never⟩

/-- The process after a list of uses. -/
def after (p : Process) (uses : List ProcessUse) : Process :=
  uses.foldl (fun p u => (u.run p).2) p

theorem after_append (p : Process) (uses later : List ProcessUse) :
    p.after (uses ++ later) = (p.after uses).after later :=
  List.foldl_append

/-- Only a load brings flags. -/
theorem loaded_run_of_ne_load {u : ProcessUse} (hu : u ≠ .load) :
    (u.run p).2.loaded = p.loaded := by
  cases u with
  | edit file => rfl
  | load => exact absurd rfl hu
  | read => rfl
  | notify env c replies => rfl

/-- Flags that were loaded stay, also through a load. -/
theorem loaded_run_of_some {flags : FeatureFlags} (h : p.loaded = ⟨some flags⟩) (u : ProcessUse) :
    (u.run p).2.loaded = ⟨some flags⟩ := by
  by_cases hu : u = .load
  · subst hu
    show p.loaded.load p.file = _
    rw [h]
    rfl
  · rw [loaded_run_of_ne_load hu, h]

theorem loaded_after_of_not_mem {uses : List ProcessUse} (h : .load ∉ uses) :
    (p.after uses).loaded = p.loaded := by
  induction uses generalizing p with
  | nil => rfl
  | cons u uses ih =>
    obtain ⟨hu, huses⟩ := List.ne_and_not_mem_of_not_mem_cons h
    exact (ih huses).trans (loaded_run_of_ne_load hu.symm)

theorem loaded_after_of_some {flags : FeatureFlags} (h : p.loaded = ⟨some flags⟩)
    (uses : List ProcessUse) : (p.after uses).loaded = ⟨some flags⟩ := by
  induction uses generalizing p with
  | nil => exact h
  | cons u uses ih => exact ih (loaded_run_of_some h u)

/-- After its first load a process has the flags of the file as it was then. -/
theorem loaded_after_first_load (file : Option String) {before : List ProcessUse}
    (h : .load ∉ before) (later : List ProcessUse) :
    ((start file).after (before ++ .load :: later)).loaded =
      ⟨some (.ofFile ((start file).after before).file)⟩ := by
  have hbefore : ((start file).after before).loaded = .never := loaded_after_of_not_mem h
  rw [after_append]
  -- what is left is the load itself
  refine loaded_after_of_some ?_ later
  show ((start file).after before).loaded.load _ = _
  rw [hbefore]
  rfl

/-- Nothing is sent while the flag is off. -/
theorem requests_notify (hoff : p.loaded.current.mailgun = false) (env : Environment)
    (c : CaseRecord) (replies : List Http.Reply) :
    ((ProcessUse.notify env c replies).run p).1 = (.ok (), []) := by
  have hnothing : Mail.notifyRespondents p.loaded.current env c = pure () := by
    simp [Mail.notifyRespondents, hoff]
  show Http.Script.run replies (Mail.notifyRespondents p.loaded.current env c).run = _
  rw [hnothing]
  rfl

/-- A process that starts with a configuration file or without one, for any list of uses:

* before the first load all flags are off,
* from then on they are the flags of the file as it was at the first load,
* of these a flag is on exactly if the file is a document of the right form that sets it to `true`,
* a request to the mail provider is sent only in a process that loaded its flags first from a
  document that switches it on. -/
theorem flags_law (file : Option String) :
    (∀ uses, .load ∉ uses → (ProcessUse.read.run ((start file).after uses)).1 = .off) ∧
    (∀ before later, .load ∉ before →
      (ProcessUse.read.run ((start file).after (before ++ .load :: later))).1 =
        .ofFile ((start file).after before).file) ∧
    (∀ content flag, (FeatureFlags.ofFile content).get flag = true ↔
      ∃ text ms, content = some text ∧ Toml.parse text = some ms ∧ ms.IsConfiguration ∧
        ms.SwitchesOn flag) ∧
    ∀ uses env c replies,
      ((ProcessUse.notify env c replies).run ((start file).after uses)).1.2 ≠ [] →
        ∃ before later text ms, uses = before ++ .load :: later ∧ .load ∉ before ∧
          ((start file).after before).file = some text ∧ Toml.parse text = some ms ∧
          ms.IsConfiguration ∧ ms.SwitchesOn .mailgun := by
  have hunloaded : ∀ uses, ProcessUse.load ∉ uses →
      ((start file).after uses).loaded.current = .off := fun uses huses => by
    rw [loaded_after_of_not_mem huses]
    rfl
  have hloaded : ∀ before later, ProcessUse.load ∉ before →
      ((start file).after (before ++ .load :: later)).loaded.current =
        .ofFile ((start file).after before).file := fun before later hbefore => by
    rw [loaded_after_first_load file hbefore]
    rfl
  refine ⟨hunloaded, hloaded, fun _ _ => FeatureFlags.get_ofFile_iff,
    fun uses env c replies hsent => ?_⟩
  have hon : ((start file).after uses).loaded.current.get .mailgun = true := by
    refine Bool.of_not_eq_false fun hoff => hsent ?_
    rw [requests_notify hoff]
  by_cases huses : ProcessUse.load ∈ uses
  · obtain ⟨before, later, rfl, hbefore⟩ := List.eq_append_cons_of_mem huses
    rw [hloaded before later hbefore] at hon
    obtain ⟨text, ms, htext, hms, hform, hswitch⟩ := FeatureFlags.get_ofFile_iff.1 hon
    exact ⟨before, later, text, ms, rfl, hbefore, htext, hms, hform, hswitch⟩
  · rw [hunloaded uses huses, FeatureFlags.get_off] at hon
    cases hon

/-- The file is written after the start and removed after the first load. -/
example : ((start none).after [.read, .edit (some "features = [true]\n"), .load, .edit none, .load]
    ).loaded.current = ⟨true, false⟩ := by decide +kernel

end Process

end GeneralApplications

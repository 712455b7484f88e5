import GeneralApplications.Http.Percent
import GeneralApplications.Logging.Pattern
import GeneralApplications.Text.Pieces

/-!
# Log filters

A filter is a list of directives separated by commas. A directive names what it is about, by target,
span and fields, and the most verbose level that it lets through. Of the directives that are about
an event the most specific one decides; an event that none is about is not written. Directives that
name a span or the value of a field never let an event through that lies outside all spans.
-/

namespace GeneralApplications.Logging

open Text

/-! ## Levels -/

/-- How much a directive lets through, or how important an event is. -/
inductive Level where
  | off
  | error
  | warn
  | info
  | debug
  | trace
  deriving DecidableEq, Repr

namespace Level

/-- Every level, the most verbose last. -/
def all : List Level :=
  [off, error, warn, info, debug, trace]

/-- The number of a level, greater for more verbose ones. -/
def rank (l : Level) : Nat :=
  all.idxOf l

/-- The name of a level. -/
def name : Level → String
  | off => "off"
  | error => "error"
  | warn => "warn"
  | info => "info"
  | debug => "debug"
  | trace => "trace"

/-- The level that a text names, by its number or by its name in any case. -/
def ofText? (s : String) : Option Level :=
  match (unsigned? (Nat.pow 2 64) s.toList).bind (all[·]?) with
  | some l => some l
  | none =>
    if s = "" then some error
    else all.find? fun l => l.name.toList = s.toList.map Char.toLower

end Level

/-! ## Directives -/

/-- A field that a directive asks for; `valued` if it also asks for a value. -/
structure FieldPattern where
  name : String
  valued : Bool
  deriving DecidableEq, Repr

/-- A directive. -/
structure Directive where
  target : Option String
  span : Option String
  fields : List FieldPattern
  level : Level
  deriving DecidableEq, Repr

/-- Why a text denotes no directive. -/
inductive Directive.Fault where
  | invalid
  /-- A part of it would begin or end inside a character. -/
  | splitCharacter
  deriving DecidableEq, Repr

/-- What a scanner of directives is in the middle of, with the position where it began. -/
inductive Directive.State where
  | start
  | levelOrTarget (since : Nat)
  | span (since : Nat)
  | field (since : Nat)
  | fields
  | target
  | level (since : Nat)
  deriving DecidableEq, Repr

namespace Directive

/-- A position in a text lies between two characters or at an end. -/
def isBoundary (text : List UInt8) (i : Nat) : Bool :=
  i = text.length || (text[i]?).elim false fun b => b < 0x80 || 0xC0 ≤ b

/-- The bytes of a text between two positions, as a text again. -/
def cut (text : List UInt8) (since upTo : Nat) : Except Fault String :=
  if isBoundary text since && isBoundary text upTo then
    .ok ((Http.ofUtf8? ((text.drop since).take (upTo - since))).getD "")
  else .error .splitCharacter

/-- A field with or without a value. A value that cannot be asked for is a fault; an equals sign in it
ends it. -/
def fieldOf (s : String) : Except Fault FieldPattern :=
  let name := String.ofList (s.toList.takeWhile (· ≠ '='))
  match s.toList.dropWhile (· ≠ '=') with
  | [] => .ok ⟨name, false⟩
  | _ :: r => if isFieldValue (r.takeWhile (· ≠ '=')) then .ok ⟨name, true⟩ else .error .invalid

/-- The directive with one more field, which has to have a name. -/
def addField (d : Directive) (s : String) : Except Fault Directive := do
  if s = "" then throw .invalid
  return { d with fields := d.fields ++ [← fieldOf s] }

/-- One character at a position: what it continues, and the directive so far. -/
def step (text : List UInt8) (d : Directive) (s : State) (i : Nat) (c : Char) :
    Except Fault (State × Directive) := do
  match s with
  | .start =>
    if c = '[' then return (.span (i + 1), d)
    else if c = '-' || c = ':' || c = '_' || isAlphanumeric c then return (.levelOrTarget i, d)
    else throw .invalid
  | .levelOrTarget since =>
    if c = '=' then return (.level (i + 1), { d with target := some (← cut text since i) })
    else if c = '[' then return (.span (i + 1), { d with target := some (← cut text since i) })
    else return (s, d)
  | .span since =>
    if c = ']' then return (.target, { d with span := some (← cut text since i) })
    else if c = '{' then
      let name ← cut text since i
      return (.field (i + 1), { d with span := if name = "" then none else some name })
    else return (s, d)
  | .field since =>
    if c = '}' then return (.fields, ← d.addField (← cut text since i))
    else return (s, d)
  | .fields => if c = ']' then return (.target, d) else throw .invalid
  | .target => if c = '=' then return (.level (i + 1), d) else throw .invalid
  | .level _ => return (s, d)

/-- Goes through the characters from a position on. -/
def scan (text : List UInt8) :
    Directive → State → Nat → List Char → Except Fault (State × Directive)
  | d, s, _, [] => return (s, d)
  | d, s, i, c :: r => do
    let (s, d) ← step text d s i c
    scan text d s (i + c.utf8Size) r

/-- The directive at the end of its text: an unfinished part is completed if it can be. -/
def finish (text : List UInt8) (s : State) (d : Directive) : Except Fault Directive := do
  match s with
  | .levelOrTarget since =>
    let part ← cut text since text.length
    if part = "" then return d
    match Level.ofText? part with
    | some l => return { d with level := l }
    | none => return { d with target := some part }
  | .level since =>
    let part ← cut text since text.length
    if part = "" then return d
    let some l := Level.ofText? part | throw .invalid
    return { d with level := l }
  | .target => return d
  | .start | .span _ | .field _ | .fields => throw .invalid

/-- The directive that a text denotes. Positions are counted from the first character that is not
blank, but taken in the whole text, so blanks in front move every part. -/
def ofText (s : String) : Except Fault Directive := do
  let text := Http.utf8 s
  let (state, d) ← scan text ⟨none, none, [], .trace⟩ .start 0 (trim s.toList)
  finish text state d

/-- The directive can let events through that lie outside all spans. -/
def isStatic (d : Directive) : Bool :=
  d.span.isNone && !d.fields.any (·.valued)

end Directive

/-! ## Events -/

/-- An event to be written, by what filters look at. -/
structure Event where
  target : String
  level : Level
  fields : List String
  deriving DecidableEq, Repr

/-- The directive is about the event. -/
def Directive.concerns (d : Directive) (e : Event) : Bool :=
  d.target.elim true (fun t => t.toList.isPrefixOf e.target.toList) &&
    d.fields.all fun f => e.fields.contains f.name

/-- One directive is less specific than another: by the length of the target, then by the number of
fields, then by their order as texts. -/
def Directive.lessSpecific (a b : Directive) : Bool :=
  let size (d : Directive) : Nat := d.target.elim 0 (·.utf8ByteSize + 1)
  let names (d : Directive) : List String := d.fields.map (·.name)
  if size a ≠ size b then size a < size b
  else if a.fields.length ≠ b.fields.length then a.fields.length < b.fields.length
  else if a.target ≠ b.target then a.target.getD "" < b.target.getD ""
  else names a < names b

/-- The more specific of two directives; of two equally specific ones the later. -/
def Directive.prevail (best : Option Directive) (d : Directive) : Option Directive :=
  match best with
  | none => some d
  | some b => if d.lessSpecific b then some b else some d

/-! ## Filters -/

/-- The directives of a filter. -/
structure Filter where
  directives : List Directive
  deriving DecidableEq, Repr

namespace Filter

/-- The filter that a text denotes; empty pieces between commas do not count. The first directive with a
fault decides which one it is. -/
def ofText (s : String) : Except Directive.Fault Filter := do
  let ps := (pieces ',' s.toList).filter (!·.isEmpty)
  return ⟨← ps.mapM fun p => Directive.ofText (String.ofList p)⟩

/-- The filter lets an event through that lies outside all spans. -/
def passes (f : Filter) (e : Event) : Bool :=
  let about := f.directives.filter fun d => d.isStatic && d.concerns e
  match about.foldl Directive.prevail none with
  | some d => e.level.rank ≤ d.level.rank
  | none => false

end Filter

end GeneralApplications.Logging

import GeneralApplications.Json.Document
import GeneralApplications.Json.Printer
import GeneralApplications.Text.Quoted

/-!
# Reading typed values

A typed value is read from a value (`Json`) or straight from a text (`Document`). Both are seen
through `Readable`: one level at a time as a `Node`, or whole as free JSON. A value that does not
fit is rejected with its place and the reason (`Rejection`); the reason's wording is
`Reason.message`.
-/

namespace GeneralApplications.Json

/-! ## Rejections -/

/-- Why a value cannot be read as what was asked for. -/
inductive Reason where
  /-- The text is not JSON. -/
  | malformed (error : ParseError)
  | invalidType (found expected : String)
  | invalidValue (found expected : String)
  | invalidLength (length : Nat) (expected : String)
  | unknownVariant (name : String) (variants : List String)
  | missingField (name : String)
  | duplicateField (name : String)
  /-- The value has none of the forms of an untagged choice. -/
  | unmatched (choice : String)
  /-- The value has the right form and is refused for what it says. -/
  | refused (message : String)
  deriving DecidableEq, Repr

/-- A name between backquotes. -/
def backquoted (s : String) : String :=
  "\x60" ++ s ++ "\x60"

/-- The alternatives of a choice as a message lists them. -/
def alternatives : List String → String
  | [] => "there are no variants"
  | [a] => "expected " ++ backquoted a
  | [a, b] => "expected " ++ backquoted a ++ " or " ++ backquoted b
  | as => "expected one of " ++ ", ".intercalate (as.map backquoted)

/-- The wording of a reason. -/
def Reason.message : Reason → String
  | malformed e => e.message
  | invalidType found expected => "invalid type: " ++ found ++ ", expected " ++ expected
  | invalidValue found expected => "invalid value: " ++ found ++ ", expected " ++ expected
  | invalidLength n expected => "invalid length " ++ toString n ++ ", expected " ++ expected
  | unknownVariant name variants =>
    "unknown variant " ++ backquoted name ++ ", " ++ alternatives variants
  | missingField name => "missing field " ++ backquoted name
  | duplicateField name => "duplicate field " ++ backquoted name
  | unmatched choice => "data did not match any variant of untagged enum " ++ choice
  | refused message => message

/-- One step from a value to a part of it. -/
inductive Step where
  | key (name : String)
  | index (i : Nat)
  deriving DecidableEq, Repr

/-- A value was not accepted: the steps to the unsuitable part, and the reason. -/
structure Rejection where
  path : List Step
  reason : Reason
  deriving DecidableEq, Repr

namespace Rejection

/-- A rejection of the value itself. -/
def here (reason : Reason) : Rejection :=
  ⟨[], reason⟩

/-- The wording of the reason. -/
def message (r : Rejection) : String :=
  r.reason.message

/-- The path as text: keys after points, positions in brackets. -/
def pathText : List Step → String
  | [] => ""
  | .key k :: rest => k ++ tail rest
  | .index i :: rest => "[" ++ toString i ++ "]" ++ tail rest
where
  /-- The steps after the first. -/
  tail : List Step → String
    | [] => ""
    | .key k :: rest => "." ++ k ++ tail rest
    | .index i :: rest => "[" ++ toString i ++ "]" ++ tail rest

/-- The wording of the reason with the path in front of it, unless the value itself was rejected. -/
def located (r : Rejection) : String :=
  match r.path with
  | [] => r.message
  | path => pathText path ++ ": " ++ r.message

end Rejection

/-- The outcome of reading one part: a rejection is placed one step further out. -/
def within {α : Type} (step : Step) (r : Except Rejection α) : Except Rejection α :=
  r.mapError fun e => { e with path := step :: e.path }

@[simp] theorem within_ok {α : Type} (step : Step) (a : α) :
    within step (.ok a) = .ok a := rfl

@[simp] theorem within_eq_ok_iff {α : Type} {step : Step} {r : Except Rejection α} {a : α} :
    within step r = .ok a ↔ r = .ok a := by
  cases r with
  | error e => exact iff_of_false nofun nofun
  | ok b => rfl

/-! ## Sources -/

/-- Parts read from left to right. If `broken` is given, the reader stops there after the last of
them; otherwise they are all. -/
structure Sequence (α : Type) where
  parts : List α
  broken : Option ParseError
  deriving Repr

/-- One level of a source. -/
inductive Node (τ : Type) where
  | null
  | bool (b : Bool)
  | number (n : Number)
  | string (s : String)
  | array (items : Sequence τ)
  | object (members : Sequence (String × τ))

/-- Whether a source is a value or a text: a few rejections are worded differently. -/
inductive Medium where
  | value
  | text
  deriving DecidableEq, Repr

/-- Something that typed values can be read from. -/
class Readable (τ : Type) where
  medium : Medium
  /-- The outermost level. -/
  node : τ → Except ParseError (Node τ)
  /-- All of it as free JSON. -/
  free : τ → Except ParseError Json
  /-- Passes over it. -/
  skim : τ → Except ParseError Unit

instance : Readable Json where
  medium := .value
  node
    | .null => .ok .null
    | .bool b => .ok (.bool b)
    | .number n => .ok (.number n)
    | .string s => .ok (.string s)
    | .array items => .ok (.array ⟨items, none⟩)
    | .object members => .ok (.object ⟨members, none⟩)
  free j := .ok j
  skim _ := .ok ()

/-- The members in front of the first key that is refused, and the refusal or the break that ends
them. -/
def Document.memberSequence (broken : Option Fault) :
    List (Except ParseError String × Document) → Sequence (String × Document)
  | [] => ⟨[], broken.map (·.careful)⟩
  | (.error e, _) :: _ => ⟨[], some e⟩
  | (.ok k, t) :: rest =>
    let s := memberSequence broken rest
    ⟨(k, t) :: s.parts, s.broken⟩

instance : Readable Document where
  medium := .text
  node
    | .null => .ok .null
    | .bool b => .ok (.bool b)
    | .number n => .ok (.number n)
    | .string s => .ok (.string s)
    | .array items broken => .ok (.array ⟨items, broken.map (·.careful)⟩)
    | .object members broken => .ok (.object (Document.memberSequence broken members))
    | .refused e _ => .error e
    | .missing f => .error f.careful
  free := Document.toJson
  skim := Document.skim

/-- How a message names what was found. -/
def Node.describe {τ : Type} : Node τ → String
  | .null => "null"
  | .bool true => "boolean " ++ backquoted "true"
  | .bool false => "boolean " ++ backquoted "false"
  | .number (.int n) => "integer " ++ backquoted (toString n)
  | .number (.double x) => "floating point " ++ backquoted x.text
  | .string s => "string " ++ Text.quoted s
  | .array _ => "sequence"
  | .object _ => "map"

section
variable {τ : Type} [Readable τ]

/-- A fault of the text as a rejection. -/
def lift {α : Type} (r : Except ParseError α) : Except Rejection α :=
  r.mapError fun e => .here (.malformed e)

@[simp] theorem lift_ok {α : Type} (a : α) : lift (.ok a) = .ok a := rfl

/-- Stops at a break in the text. -/
def unbroken (broken : Option ParseError) : Except Rejection Unit :=
  match broken with
  | none => .ok ()
  | some e => .error (.here (.malformed e))

/-- The rejection of a value of the wrong kind. -/
def mistyped {α : Type} (found : Node τ) (expected : String) : Except Rejection α :=
  .error (.here (.invalidType found.describe expected))

/-! ## Simple values -/

/-- A text. -/
def readString (t : τ) : Except Rejection String := do
  match ← lift (Readable.node t) with
  | .string s => .ok s
  | other => mistyped other "a string"

/-- A truth value. -/
def readBool (t : τ) : Except Rejection Bool := do
  match ← lift (Readable.node t) with
  | .bool b => .ok b
  | other => mistyped other "a boolean"

/-- Nothing. -/
def readUnit (t : τ) : Except Rejection Unit := do
  match ← lift (Readable.node t) with
  | .null => .ok ()
  | other => mistyped other "unit"

/-- The members of a free object in the order of the source. -/
def readMembers : List (String × τ) → Except Rejection (List (String × Json))
  | [] => .ok []
  | (k, v) :: rest => do
    let j ← within (.key k) (lift (Readable.free v))
    let js ← readMembers rest
    return (k, j) :: js

/-- A free object. -/
def readObject (t : τ) : Except Rejection Object := do
  match ← lift (Readable.node t) with
  | .object members =>
    let ms ← readMembers members.parts
    unbroken members.broken
    return Object.ofMembers ms
  | other => mistyped other "a map"

/-- The items of a list, each read in the same way. -/
def readItems {α : Type} (read : τ → Except Rejection α) :
    Nat → List τ → Except Rejection (List α)
  | _, [] => .ok []
  | i, t :: ts => do
    let a ← within (.index i) (read t)
    let as ← readItems read (i + 1) ts
    return a :: as

/-- A list. -/
def readList {α : Type} (read : τ → Except Rejection α) (t : τ) : Except Rejection (List α) := do
  match ← lift (Readable.node t) with
  | .array items =>
    let as ← readItems read 0 items.parts
    unbroken items.broken
    return as
  | other => mistyped other "a sequence"

/-- A value that may be absent, written as `null`. -/
def readOption {α : Type} (read : τ → Except Rejection α) (t : τ) :
    Except Rejection (Option α) := do
  match ← lift (Readable.node t) with
  | .null => .ok none
  | _ => some <$> read t

/-! ## Named alternatives -/

/-- The alternative with a given name. -/
def variant {α : Type} (variants : List (String × α)) (name : String) : Except Rejection α :=
  match variants.find? (·.1 = name) with
  | some v => .ok v.2
  | none => .error (.here (.unknownVariant name (variants.map (·.1))))

/-- An alternative given as an object in a text: its one member is the name with `null`. -/
def variantOfText {α : Type} (variants : List (String × α)) (members : Sequence (String × τ)) :
    Except Rejection α := do
  let stop (e : ParseError) : Except Rejection α := .error (.here (.malformed e))
  match members.parts with
  | [] =>
    match members.broken with
    | none => stop .expectedValue
    | some e => stop e
  | (name, v) :: rest =>
    let a ← variant variants name
    readUnit v
    match rest, members.broken with
    | [], none => return a
    | [], some .endInObject => stop .endInObject
    | _, _ => stop .expectedValue

/-- An alternative given as an object in a value: exactly one member, the name with `null`. -/
def variantOfValue {α : Type} (variants : List (String × α)) (members : List (String × τ)) :
    Except Rejection α := do
  match members with
  | [(name, v)] =>
    let a ← variant variants name
    readUnit v
    return a
  | _ => .error (.here (.invalidValue "map" "map with a single key"))

/-- One of several named alternatives: its name as a text, or an object with the name as its only
key and `null` as the value. -/
def readVariant {α : Type} (variants : List (String × α)) (t : τ) : Except Rejection α := do
  match ← lift (Readable.node t) with
  | .string name => variant variants name
  | .object members =>
    match Readable.medium τ with
    | .value => variantOfValue variants members.parts
    | .text => variantOfText variants members
  | other =>
    match Readable.medium τ with
    | .value => mistyped other "string or map"
    | .text => .error (.here (.malformed .expectedValue))

end

/-- Reads a typed value from a text that holds exactly one value. -/
def readText {α : Type} (read : Document → Except Rejection α) (s : String) :
    Except Rejection α := do
  let (t, ended) := Document.read s
  let a ← read t
  if ended then return a else .error (.here (.malformed .trailingCharacters))

end GeneralApplications.Json

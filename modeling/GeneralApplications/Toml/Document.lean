import GeneralApplications.Text.Scanner
import GeneralApplications.Toml.Scalar
import GeneralApplications.Toml.Tree

/-!
# TOML documents

A document is a sequence of statements, one a line: headers and assignments. `statements` reads
them, `build` carries them out one after another. A text that breaks a rule anywhere has no value.
-/

namespace GeneralApplications.Toml

open Text Text.Scanner

/-- How deep values, and the parts of a key, may go. -/
def depthLimit : Nat := 80

/-- A dotted key: the parts in front of the last one, and the last one. -/
structure Key where
  path : List String
  last : String
  deriving DecidableEq, Repr

/-- A statement. -/
inductive Statement where
  /-- The header of a table. -/
  | table (key : Key)
  /-- The header of one of several tables. -/
  | nextTable (key : Key)
  | assign (key : Key) (value : Tree)
  deriving Repr

/-! ## Scanning -/

/-- The parts of a key after the first. The first argument bounds their number. -/
def keyParts : Nat → Scanner (List String)
  | 0 => failure
  | fuel + 1 => do
    blanks
    let part ← simpleKey
    blanks
    if (← peek) = some '.' then
      char '.'
      return part :: (← keyParts fuel)
    else return [part]

/-- A key. -/
def key : Scanner Key := do
  let parts ← keyParts depthLimit
  guard (parts.length < depthLimit)
  match parts.getLast? with
  | some last => return ⟨parts.dropLast, last⟩
  | none => failure

/-- A comment, if there is one. -/
def comment : Scanner Unit :=
  discard (optionally do
    char '#'
    many isPlain)

/-- The end of a line, possibly after a comment. -/
def lineEnd : Scanner Unit := do
  blanks
  comment
  lineBreak <|> ended

/-- Blanks, comments and line breaks within a list. The first argument bounds the number of lines. -/
def gaps : Nat → Scanner Unit
  | 0 => failure
  | fuel + 1 => do
    blanks
    (do
      comment
      lineBreak
      gaps fuel) <|> return ()

/-- Blanks, comments and line breaks within a list. -/
def gap : Scanner Unit := do
  gaps ((← get).length + 1)

mutual

/-- A value inside `depth` others. The first argument bounds the number of steps. -/
def value : Nat → Nat → Scanner Tree
  | 0, _ => failure
  | fuel + 1, depth => do
    match ← peek with
    | none => failure
    | some c =>
      if c = '"' ∨ c = '\'' then
        string
        return .scalar
      else if c = '[' then
        guard (depth + 1 < depthLimit)
        char '['
        gap
        return .array (← items fuel (depth + 1))
      else if c = '{' then
        guard (depth + 1 < depthLimit)
        char '{'
        blanks
        (do
          char '}'
          return .inlineTable []) <|>
          return .inlineTable (← inlineMembers fuel (depth + 1) [])
      else if c = 't' then
        word "true"
        return .boolean true
      else if c = 'f' then
        word "false"
        return .boolean false
      else
        word "inf" <|> word "nan" <|> numeral
        return .scalar

/-- The items of a list from a place where one may begin, up to the closing bracket. -/
def items : Nat → Nat → Scanner (List Tree)
  | 0, _ => failure
  | fuel + 1, depth => do
    if (← peek) = some ']' then
      char ']'
      return []
    else
      let t ← value fuel depth
      gap
      if (← peek) = some ',' then
        char ','
        gap
        return t :: (← items fuel depth)
      else
        char ']'
        return [t]

/-- The assignments of a table written as a value, up to the closing brace. -/
def inlineMembers : Nat → Nat → Members → Scanner Members
  | 0, _, _ => failure
  | fuel + 1, depth, ms => do
    let k ← key
    char '='
    blanks
    let v ← value fuel depth
    blanks
    let ms ← ms.assign k.path k.last v
    if (← peek) = some ',' then
      char ','
      inlineMembers fuel depth ms
    else
      char '}'
      return ms

end

/-- A header, after its opening brackets. -/
def header (closing : String) : Scanner Key := do
  let k ← key
  word closing
  lineEnd
  return k

/-- An assignment. -/
def assignment : Scanner Statement := do
  let k ← key
  char '='
  blanks
  let v ← value (2 * (← get).length + 2) 0
  lineEnd
  return .assign k v

/-- The statements up to the end of the text. The first argument bounds the number of lines. -/
def statements : Nat → Scanner (List Statement)
  | 0 => failure
  | fuel + 1 => do
    blanks
    match ← peek with
    | none => return []
    | some c =>
      if c = '#' ∨ c = '\n' ∨ c = '\r' then
        comment
        lineBreak <|> ended
        statements fuel
      else if c = '[' then
        char '['
        let s ← (do
          char '['
          return .nextTable (← header "]]")) <|> (do
          return .table (← header "]"))
        return s :: (← statements fuel)
      else
        let s ← assignment
        return s :: (← statements fuel)

/-! ## Carrying out -/

/-- The members of a document so far, and the header under which assignments go. -/
structure Progress where
  members : Members
  header : List String

/-- Carries a statement out. -/
def Progress.step (p : Progress) : Statement → Option Progress
  | .table k => do
    return ⟨← p.members.openTable k.path k.last, k.path ++ [k.last]⟩
  | .nextTable k => do
    return ⟨← p.members.openNext k.path k.last, k.path ++ [k.last]⟩
  | .assign k v => do
    let ms ← p.members.change .implied (fun _ ms => ms.assign k.path k.last v) p.header .explicit
    return { p with members := ms }

/-- The members of a document with the given statements. -/
def build (ss : List Statement) : Option Members :=
  (·.members) <$> ss.foldlM Progress.step ⟨[], []⟩

/-- The members of the document that a text denotes. -/
def parse (s : String) : Option Members := do
  let cs := dropMark s.toList
  let (ss, _) ← statements (cs.length + 1) cs
  build ss

end GeneralApplications.Toml

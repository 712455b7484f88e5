import GeneralApplications.Config.Environment
import GeneralApplications.Text.Alphanumeric
import GeneralApplications.Text.Blank
import GeneralApplications.Text.Scanner

/-!
# Environment files

An environment file sets variables, one assignment a line. A value may be quoted, also over several
lines, may refer to variables with a dollar sign, and may be followed by a comment. Variables that
are set already keep their value, and loading stops at the first line that is malformed.
-/

namespace GeneralApplications.Dotenv

open Text

/-! ## Lines -/

/-- Where a line ends in the middle of: whether the next line belongs to it. -/
inductive LineState where
  | complete
  | blank
  | escape
  | weak
  | weakEscape
  | strong
  | strongEscape
  deriving DecidableEq, Repr

/-- The state after one more character outside quotes. -/
def LineState.open (c : Char) : LineState :=
  if c = '\\' then .escape
  else if c = '"' then .weak
  else if c = '\'' then .strong
  else .complete

/-- The state after one more character; `none` where a comment begins. -/
def LineState.step (s : LineState) (c : Char) : Option LineState :=
  match s with
  | .blank => if c = '#' then none else some (.open c)
  | .escape => some .complete
  | .complete =>
    if isBlank c && c ≠ '\n' && c ≠ '\r' then some .blank else some (.open c)
  | .weak => some (if c = '\\' then .weakEscape else if c = '"' then .complete else .weak)
  | .weakEscape => some .weak
  | .strong => some (if c = '\\' then .strongEscape else if c = '\'' then .complete else .strong)
  | .strongEscape => some .strong

/-- How a line ends. -/
inductive LineEnd where
  | state (s : LineState)
  /-- A comment begins; only the text in front of it counts. -/
  | comment (kept : List Char)

/-- Follows a line from a state to its end. -/
def LineState.follow : LineState → List Char → LineEnd
  | s, [] => .state s
  | s, c :: r =>
    match s.step c with
    | none => .comment []
    | some t =>
      match t.follow r with
      | .state u => .state u
      | .comment kept => .comment (c :: kept)

/-- A text cut after each of its line breaks. -/
def physicalLines : List Char → List (List Char)
  | [] => []
  | c :: r =>
    if c = '\n' then [c] :: physicalLines r
    else
      match physicalLines r with
      | [] => [[c]]
      | l :: ls => (c :: l) :: ls

/-- The line without its line break. -/
def chomp (cs : List Char) : List Char :=
  match cs.reverse with
  | '\n' :: '\r' :: r => r.reverse
  | '\n' :: r => r.reverse
  | _ => cs

/-- Joins the lines that belong together, the text of the current one being `begun`. `none` stands
for a line whose end is missing. -/
def logicalLines : LineState → List Char → List (List Char) → List (Option (List Char))
  | s, _, [] => if s = .complete then [] else [none]
  | s, begun, line :: rest =>
    if (trimStart (begun ++ line)).head? = some '#' then
      some [] :: logicalLines .complete [] rest
    else
      match s.follow line with
      | .comment kept => some (begun ++ kept) :: logicalLines .complete [] rest
      | .state .complete => some (chomp (begun ++ line)) :: logicalLines .complete [] rest
      | .state t => logicalLines t (begun ++ line) rest

/-! ## Values -/

/-- What the next character of a value continues. A reference to a variable knows whether it stands
inside double quotes. -/
inductive ValueState where
  | text (quoted : Bool)
  | escape (quoted : Bool)
  | strong
  /-- A name after a dollar sign. -/
  | reference (quoted : Bool) (name : List Char)
  /-- A name in braces after a dollar sign. -/
  | braced (quoted : Bool) (name : List Char)
  /-- Blanks after the value. -/
  | ended

/-- The character that an escape stands for. -/
def escaped? (c : Char) : Option Char :=
  if c = 'n' then some '\n'
  else if c = '\\' ∨ c = '\'' ∨ c = '"' ∨ c = '$' ∨ c = ' ' then some c
  else none

/-- The value of a variable, or nothing. -/
def substitute (env : Environment) (name : List Char) : List Char :=
  ((env.get? (String.ofList name)).getD "").toList

/-- The value that a text denotes; `none` if it is malformed. -/
def value (env : Environment) : ValueState → List Char → Option (List Char)
  | .text false, [] => some []
  | .escape false, [] => some []
  | .ended, [] => some []
  | .reference false name, [] => some (substitute env name)
  | .text true, [] => none
  | .escape true, [] => none
  | .strong, [] => none
  | .reference true _, [] => none
  | .braced _ _, [] => none
  | .ended, c :: r =>
    if c = ' ' ∨ c = '\t' then value env .ended r
    else if c = '#' then some []
    else none
  | .escape q, c :: r =>
    match escaped? c with
    | some x => (x :: ·) <$> value env (.text q) r
    | none => none
  | .strong, c :: r =>
    if c = '\'' then value env (.text false) r else (c :: ·) <$> value env .strong r
  | .reference q name, c :: r =>
    if isAlphanumeric c then value env (.reference q (name ++ [c])) r
    else if c = '{' ∧ name = [] then value env (.braced q []) r
    else if c = '$' then (substitute env name ++ ·) <$> value env (.reference q []) r
    else (substitute env name ++ c :: ·) <$> value env (.text q) r
  | .braced q name, c :: r =>
    if c = '}' then (substitute env name ++ ·) <$> value env (.text q) r
    else value env (.braced q (name ++ [c])) r
  | .text q, c :: r =>
    if c = '$' then value env (.reference q []) r
    else if c = '\\' then value env (.escape q) r
    else if c = '"' then value env (.text !q) r
    else if q then (c :: ·) <$> value env (.text true) r
    else if c = '\'' then value env .strong r
    else if c = ' ' ∨ c = '\t' then value env .ended r
    else (c :: ·) <$> value env (.text false) r

/-! ## Assignments -/

/-- A character with which a name may begin. -/
def isNameStart (c : Char) : Bool :=
  c.isAlpha || c = '_'

/-- A character of a name. -/
def isNameChar (c : Char) : Bool :=
  c.isAlphanum || c = '_' || c = '.'

/-- A name and the text after it and after blanks. -/
def name? (cs : List Char) : Option (String × List Char) :=
  if cs.head?.elim false isNameStart then
    some (String.ofList (cs.takeWhile isNameChar), trimStart (cs.dropWhile isNameChar))
  else none

/-- The text after an equals sign. -/
def afterEquals? : List Char → Option (List Char)
  | '=' :: r => some r
  | _ => none

/-- The name that a line assigns to and the text of the value. The word `export` may stand in
front, and is itself a name if an equals sign follows it. -/
def target? (cs : List Char) : Option (String × List Char) := do
  let (name, rest) ← name? cs
  match afterEquals? rest with
  | some value => return (name, value)
  | none =>
    if name ≠ "export" then none
    let (name, rest) ← name? rest
    return (name, ← afterEquals? rest)

/-- The text holds nothing but possibly a comment. -/
def isVoid (cs : List Char) : Bool :=
  cs.head?.elim true (· = '#')

/-- The assignment on a line, if there is one; the outer `none` is a malformed line. -/
def assignment? (env : Environment) (line : List Char) : Option (Option (String × String)) :=
  let cs := trim line
  if isVoid cs then some none
  else do
    let (name, text) ← target? cs
    let text := trimStart text
    if isVoid text then return some (name, "")
    else return some (name, String.ofList (← value env (.text false) text))

/-! ## Files -/

/-- Carries out the assignments of a file up to the first malformed line. -/
def loadLines : Environment → List (Option (List Char)) → Environment
  | env, [] => env
  | env, none :: _ => env
  | env, some line :: rest =>
    match assignment? env line with
    | none => env
    | some none => loadLines env rest
    | some (some (name, value)) => loadLines (env.setIfAbsent name value) rest

/-- The environment with the variables of a file added. -/
def load (env : Environment) (text : String) : Environment :=
  loadLines env (logicalLines .complete [] (physicalLines (dropMark text.toList)))

end GeneralApplications.Dotenv

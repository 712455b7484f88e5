import GeneralApplications.Text.Alphanumeric
import GeneralApplications.Text.Blank
import GeneralApplications.Text.Digits
import GeneralApplications.Text.Scanner

/-!
# Patterns of field values

The value that a directive asks of a field is a number or a regular expression. What an expression
matches does not matter here, because no event outside all spans is ever compared with one; what
matters is whether a text is an expression (`isPattern`), because a filter that asks for anything else
is refused.

An expression is matched by characters or, where it says so, by the bytes of their encoding. By
characters it may name no class of letters, digits, blanks or words, may not ignore case and may not
ask where words end, because that takes tables that filters do without; by bytes it may not match a
part of a character. Groups, sets and repetitions nest only so deep.
-/

namespace GeneralApplications.Logging

open Text

namespace Pattern

/-! ## Reading -/

/-- How an expression is read. -/
structure Mode where
  /-- Blanks and comments do not count. -/
  spaced : Bool
  /-- Case does not count. -/
  caseless : Bool
  /-- What is matched are bytes, not characters. -/
  bytewise : Bool
  deriving DecidableEq, Repr

/-- What is left of an expression, how it is read, and the names that groups have so far. -/
structure Remainder where
  text : List Char
  mode : Mode
  names : List (List Char)
  deriving DecidableEq, Repr

/-- Reads a part of an expression, or finds that there is none. -/
abbrev Reader : Type → Type :=
  StateT Remainder Option

/-- The text after the blanks and comments at its beginning. A comment goes from a number sign to the
end of its line; the first argument says whether the text begins inside one. -/
def skipSpaced : Bool → List Char → List Char
  | _, [] => []
  | true, c :: r => skipSpaced (c ≠ '\n') r
  | false, c :: r =>
    if c = '#' then skipSpaced true r else if isBlank c then skipSpaced false r else c :: r

/-- Goes to the next character that counts. -/
def skip : Reader Unit :=
  modify fun s => if s.mode.spaced then { s with text := skipSpaced false s.text } else s

/-- The next character, if there is one. -/
def next? : Reader (Option Char) := do
  let s ← get
  match s.text with
  | [] => return none
  | c :: r =>
    set { s with text := r }
    return some c

/-- The next character, which there has to be. -/
def next : Reader Char := do
  let some c ← next? | failure
  return c

/-- A given beginning is next, and is passed over. -/
def skipWord (word : List Char) : Reader Bool := do
  let s ← get
  match dropBeginning? word s.text with
  | none => return false
  | some r =>
    set { s with text := r }
    return true

/-! ## Atoms -/

/-- What an expression outside groups, sets and repetitions consists of. -/
inductive Atom where
  /-- A character; `isByte` if it is written as the number of a byte. -/
  | char (c : Char) ( isByte : Bool)
  /-- Any character but a line break. -/
  | any
  /-- The beginning or the end of a line or of the text. -/
  | edge
  /-- A place where a word begins or ends, or where none does. -/
  | wordEdge
  /-- Digits, blanks or characters of words, or all others. -/
  | shorthand (negated : Bool)
  deriving DecidableEq, Repr

/-- The atom can be matched. -/
def Atom.matchable (m : Mode) : Atom → Bool
  | char c isByte => if m.bytewise then !isByte || c.toNat < 128 else !m.caseless
  | any => !m.bytewise
  | edge => true
  | wordEdge => m.bytewise
  | shorthand negated => m.bytewise && !negated

/-- The atom can be a member of a set. -/
def Atom.isMember (m : Mode) : Atom → Bool
  | char c _ => if m.bytewise then c.toNat < 128 else !m.caseless
  | shorthand negated => m.bytewise && !negated
  | _ => false

/-- The number that a count of hexadecimal digits denotes. -/
def hexNumber : Nat → Nat → Reader Nat
  | 0, n => return n
  | count + 1, n => do
    skip
    let some d := hexValue? (← next) | failure
    hexNumber count (16 * n + d)

/-- The character whose number has a count of hexadecimal digits. -/
def hexChar (count : Nat) : Reader Char := do
  let n ← hexNumber count 0
  if n.isValidChar then return Char.ofNat n else failure

/-- The letters that stand for controls after a backslash, with these. -/
def controls : List (Char × Char) :=
  [('a', '\x07'), ('t', '\t'), ('n', '\n'), ('v', '\x0B'), ('f', '\x0C'), ('r', '\r')]

/-- The atom after a backslash. -/
def escape : Reader Atom := do
  let c ← next
  if c = 'x' then return .char (← hexChar 2) true
  else if c = 'u' then return .char (← hexChar 4) false
  else if c = 'U' then return .char (← hexChar 8) false
  else if "dsw".toList.contains c then return .shorthand false
  else if "DSW".toList.contains c then return .shorthand true
  else if "Az".toList.contains c then return .edge
  else if "bB<>".toList.contains c then return .wordEdge
  else if c.toNat < 128 && !c.isAlphanum then return .char c false
  else
    let some control := controls.lookup c | failure
    return .char control false

/-! ## Sets -/

/-- What was read of a set: the depth of what stands on the left of its last operator, and the number
and the greatest depth of the members after it. -/
structure Members where
  left : Option Nat
  count : Nat
  deepest : Nat
  deriving DecidableEq, Repr

namespace Members

/-- No member. -/
def none : Members :=
  ⟨.none, 0, 0⟩

/-- One more member. -/
def add (m : Members) (depth : Nat) : Members :=
  { m with count := m.count + 1, deepest := max m.deepest depth }

/-- The depth of all. -/
def depth (m : Members) : Nat :=
  let right := if m.count ≤ 1 then m.deepest else m.deepest + 1
  m.left.elim right fun l => max l right + 1

/-- An operator after the members. -/
def operator (m : Members) : Members :=
  ⟨some m.depth, 0, 0⟩

end Members

/-- The names of the classes of ASCII characters. -/
def classNames : List String :=
  ["alnum", "alpha", "ascii", "blank", "cntrl", "digit", "graph", "lower", "print", "punct",
   "space", "upper", "word", "xdigit"]

/-- A class by its name, after its opening bracket: whether it is negated, and the text after it. -/
def namedClass? (cs : List Char) : Option (Bool × List Char) := do
  let cs ← dropBeginning? [':'] cs
  let negated := cs.head? = some '^'
  let cs := if negated then cs.drop 1 else cs
  let rest ← dropBeginning? [':', ']'] (cs.dropWhile (· ≠ ':'))
  if classNames.contains (String.ofList (cs.takeWhile (· ≠ ':'))) then return (negated, rest) else none

/-- Reads the name of a class, if there is one. -/
def namedClass : Reader Bool := do
  let s ← get
  match namedClass? s.text with
  | none => return false
  | some (negated, rest) =>
    guard (if s.mode.bytewise then !negated else !s.mode.caseless)
    set { s with text := rest }
    return true

/-- A member of a set that begins with a given character. -/
def member (c : Char) : Reader Atom :=
  if c = '\\' then escape else return .char c false

/-- The character after the one that is next; blanks and a number sign before it do not count where
blanks do not. -/
def peekSecond? (s : Remainder) : Option Char :=
  let r := s.text.drop 1
  if s.mode.spaced then
    let after := trimStart r
    (if after.head? = some '#' then trimStart (after.drop 1) else after).head? <|> r.head?
  else r.head?

/-- A member that begins with a given character, or a range of characters that begins with it. A minus
sign before another one or before the end of the set makes no range. -/
def memberOrRange (c : Char) : Reader Unit := do
  let first ← member c
  skip
  let s ← get
  guard (first.isMember s.mode)
  if s.text.head? = some '-' ∧ peekSecond? s ≠ some ']' ∧ peekSecond? s ≠ some '-' then
    discard next
    skip
    let last ← member (← next)
    match first, last with
    | .char a _, .char b _ => guard (a ≤ b && last.isMember s.mode)
    | _, _ => failure

/-- Minus signs at the beginning of a set are members of it. -/
def leadingDashes : Nat → Members → Reader Members
  | 0, m => return m
  | fuel + 1, m => do
    skip
    if ← skipWord ['-'] then leadingDashes fuel (m.add 0) else return m

/-- The beginning of a set after its opening bracket. A closing bracket that comes first is a
member. -/
def openSet : Reader Members := do
  skip
  let negated ← skipWord ['^']
  let s ← get
  let m ← leadingDashes s.text.length .none
  let m ← if m.count = 0 then do
      if ← skipWord [']'] then pure (m.add 0) else pure m
    else pure m
  guard (!(negated && s.mode.bytewise))
  guard (m.count = 0 || (Atom.char '-' false).isMember s.mode)
  return m

/-- The second character of an operator between sets, if the first one begins any. -/
def operator (c : Char) : Reader Bool :=
  if "&-~".toList.contains c then skipWord [c] else return false

/-- The rest of a set up to its closing bracket: the depth of the set. The first argument bounds the
number of members. -/
def closeSet : Nat → Members → Reader Nat
  | 0, _ => failure
  | fuel + 1, m => do
    skip
    let c ← next
    if c = ']' then return m.depth + 1
    else if c = '[' then
      if ← namedClass then closeSet fuel (m.add 0)
      else
        let depth ← closeSet fuel (← openSet)
        closeSet fuel (m.add depth)
    else if ← operator c then closeSet fuel m.operator
    else
      memberOrRange c
      closeSet fuel (m.add 0)

/-! ## Groups -/

/-- The mode after switches: those before a minus sign are turned on, the others off. -/
def Mode.switched : Bool → Mode → List Char → Mode
  | _, m, [] => m
  | on, m, c :: cs =>
    if c = '-' then switched false m cs
    else if c = 'x' then switched on { m with spaced := on } cs
    else if c = 'i' then switched on { m with caseless := on } cs
    else if c = 'u' then switched on { m with bytewise := !on } cs
    else switched on m cs

/-- Switches are known ones, each at most once, and do not end with a minus sign. -/
def areSwitches (cs : List Char) : Bool :=
  cs.all "imsUuRx-".toList.contains && decide cs.Nodup && cs.getLast? ≠ some '-'

/-- The name of a group, up to a closing angle bracket: a letter or an underscore, then letters,
digits, underscores, points and brackets. No two groups have the same name. -/
def groupName : Reader Unit := do
  let s ← get
  let name := s.text.takeWhile (· ≠ '>')
  match name, s.text.dropWhile (· ≠ '>') with
  | c :: cs, _ :: rest =>
    guard (c = '_' || isAlphabetic c)
    guard (cs.all fun c => "_.[]".toList.contains c || isAlphanumeric c)
    guard !s.names.contains name
    set { s with text := rest, names := name :: s.names }
  | _, _ => failure

/-- What follows an opening parenthesis: a group in some mode (`true`), or switches alone. -/
def openGroup : Reader (Bool × Mode) := do
  skip
  let mode := (← get).mode
  if ← skipWord "?P<".toList then
    groupName
    return (true, mode)
  else if ← skipWord "?<".toList then
    groupName
    return (true, mode)
  else if ← skipWord ['?'] then
    let s ← get
    let isEnd (c : Char) : Bool := c = ':' || c = ')'
    let switches := s.text.takeWhile (!isEnd ·)
    guard (areSwitches switches)
    match s.text.dropWhile (!isEnd ·) with
    | [] => failure
    | c :: rest =>
      guard (c = ':' || !switches.isEmpty)
      set { s with text := rest }
      return (c = ':', mode.switched true switches)
  else return (true, mode)

/-- Changes the mode. -/
def setMode (m : Mode) : Reader Unit :=
  modify fun s => { s with mode := m }

/-- What was read of an expression: the number and the greatest depth of its finished alternatives,
the number and the greatest depth of the items of the unfinished one, and the depth of its last item,
which does not count among these yet, if it can be repeated. -/
structure Body where
  branches : Nat
  deepestBranch : Nat
  items : Nat
  deepest : Nat
  last : Option Nat
  deriving DecidableEq, Repr

namespace Body

/-- No item. -/
def none : Body :=
  ⟨0, 0, 0, 0, .none⟩

/-- One more item: its depth, or nothing if it cannot be repeated. -/
def add (b : Body) (depth : Option Nat) : Body :=
  { b with items := b.items + 1, deepest := max b.deepest (b.last.getD 0), last := depth }

/-- The last item is repeated. -/
def repeated? (b : Body) : Option Body :=
  b.last.map fun depth => { b with last := some (depth + 1) }

/-- The depth of the unfinished alternative. -/
def branchDepth (b : Body) : Nat :=
  let deepest := max b.deepest (b.last.getD 0)
  if b.items ≤ 1 then deepest else deepest + 1

/-- The end of an alternative. -/
def branch (b : Body) : Body :=
  ⟨b.branches + 1, max b.deepestBranch b.branchDepth, 0, 0, .none⟩

/-- The depth of all. -/
def depth (b : Body) : Nat :=
  if b.branches = 0 then b.branchDepth else max b.deepestBranch b.branchDepth + 1

end Body

/-- An atom that can be matched. -/
def matchable (a : Atom) : Reader Unit := do
  guard (a.matchable (← get).mode)

/-- The rest of an expression up to the parenthesis that closes it, if it is inside a group: the
depth of the expression. The first argument bounds the number of items. -/
def body : Nat → Bool → Body → Reader Nat
  | 0, _, _ => failure
  | fuel + 1, grouped, b => do
    skip
    match ← next? with
    | none =>
      guard !grouped
      return b.depth
    | some c =>
      if c = ')' then
        guard grouped
        return b.depth
      else if c = '|' then body fuel grouped b.branch
      else if c = '(' then
        let outer := (← get).mode
        let (opens, mode) ← openGroup
        setMode mode
        if opens then
          let depth ← body fuel true .none
          setMode outer
          body fuel grouped (b.add (some (depth + 1)))
        else body fuel grouped (b.add none)
      else if c = '[' then
        let depth ← closeSet fuel (← openSet)
        body fuel grouped (b.add (some depth))
      else if "?*+".toList.contains c then
        let some b := b.repeated? | failure
        discard (skipWord ['?'])
        body fuel grouped b
      else
        -- Counts of repetitions end with a closing brace, which no value of a field contains.
        guard (c ≠ '\x7b')
        matchable (← if c = '\\' then escape
          else if c = '.' then pure .any
          else if c = '^' ∨ c = '$' then pure .edge
          else pure (.char c false))
        body fuel grouped (b.add (some 0))

/-- The greatest depth of an expression. -/
def maxDepth : Nat :=
  250

/-- The mode in which an expression begins. -/
def initialMode : Mode :=
  ⟨false, false, false⟩

end Pattern

open Pattern in
/-- The text is a regular expression. -/
def isPattern (cs : List Char) : Bool :=
  match (body (cs.length + 1) false .none).run ⟨cs, initialMode, []⟩ with
  | some (depth, _) => depth ≤ maxDepth
  | none => false

/-- The text is a decimal number with an optional sign, fraction and exponent, or the name of an
infinity or of what is no number, in any case. -/
def isNumber (cs : List Char) : Bool :=
  let unsigned (cs : List Char) : List Char :=
    match cs with
    | '+' :: r | '-' :: r => r
    | r => r
  let cs := unsigned cs
  let whole := cs.takeWhile Char.isDigit
  let (fraction, rest) :=
    match cs.dropWhile Char.isDigit with
    | '.' :: r => (r.takeWhile Char.isDigit, r.dropWhile Char.isDigit)
    | r => ([], r)
  ["inf", "infinity", "nan"].contains (String.ofList (cs.map Char.toLower)) ||
    (!(whole ++ fraction).isEmpty &&
      match rest with
      | [] => true
      | e :: r => (e = 'e' || e = 'E') && !(unsigned r).isEmpty && (unsigned r).all Char.isDigit)

/-- The text can be asked of a field as its value. -/
def isFieldValue (cs : List Char) : Bool :=
  isNumber cs || isPattern cs

end GeneralApplications.Logging

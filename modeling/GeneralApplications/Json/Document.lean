import GeneralApplications.Json.Numeral
import GeneralApplications.Json.Object

/-!
# JSON texts

A text is read into a `Document`: a tree that keeps members in the order of the text and that also
says where the text breaks off. A reader that meets a break reports it, but only when it gets
there, so that an unsuitable value in front of a break is reported first. Two kinds of value are
well formed and yet refused by a reader that takes them in: numbers beyond the doubles, texts with
unpaired surrogates, and lists and objects nested deeper than `maxDepth`; a reader that passes over
them does not mind (`Document.refused`).
-/

namespace GeneralApplications.Json

/-- A JSON text as far as it can be read. -/
inductive Document where
  | null
  | bool (b : Bool)
  | number (n : Number)
  | string (s : String)
  /-- A list; `broken` if its end is missing. -/
  | array (items : List Document) (broken : Option Fault)
  /-- An object; `broken` if its end is missing. A key may be one that careful readers refuse. -/
  | object (members : List (Except ParseError String × Document)) (broken : Option Fault)
  /-- A value that careful readers refuse. -/
  | refused (error : ParseError) (inner : Document)
  /-- No value at all. -/
  | missing (fault : Fault)
  deriving Repr, Inhabited

namespace Document

/-- How many lists and objects may enclose each other. -/
def maxDepth : Nat := 127

/-! ## Strings -/

/-- A string after its opening quote. -/
inductive StringScan where
  | closed (text : List Char) (refusal : Option ParseError) (rest : List Char)
  | broken (fault : Fault)

/-- The bytes that a text takes in UTF-8. -/
def byteCount (cs : List Char) : Nat :=
  cs.foldl (fun n c => n + c.utf8Size) 0

/-- The four digits of a hexadecimal escape. -/
def hexEscape (cs : List Char) : Except ParseError (Nat × List Char) :=
  match cs with
  | a :: b :: c :: d :: r =>
    match Text.hexDigitsValue? [a, b, c, d] with
    | some n => .ok (n, r)
    | none => .error .invalidEscape
  | _ => if byteCount cs < 4 then .error .endInString else .error .invalidEscape

/-- The first of two refusals is the one reported. -/
def StringScan.fault (refusal : Option ParseError) (e : ParseError) : StringScan :=
  .broken ⟨refusal.getD e, e⟩

/-- The character of a single-letter escape. -/
def simpleEscape? : Char → Option Char
  | '"' => some '"'
  | '\\' => some '\\'
  | '/' => some '/'
  | 'b' => some '\x08'
  | 'f' => some '\x0c'
  | 'n' => some '\n'
  | 'r' => some '\r'
  | 't' => some '\t'
  | _ => none

/-- What a hexadecimal escape contributes: characters, possibly a refusal, and what follows. A
leading surrogate takes the escape of a trailing one with it. -/
def unicodeEscape (cs : List Char) :
    Except ParseError (List Char × Option ParseError × List Char) := do
  let (n, r) ← hexEscape cs
  if 0xDC00 ≤ n ∧ n ≤ 0xDFFF then return ([], some .loneSurrogate, r)
  else if 0xD800 ≤ n ∧ n ≤ 0xDBFF then
    match r with
    | [] => .error .endInString
    | ['\\'] => .error .endInString
    | '\\' :: 'u' :: r' =>
      let (m, r'') ← hexEscape r'
      if 0xDC00 ≤ m ∧ m ≤ 0xDFFF then
        return ([Char.ofNat (0x10000 + (n - 0xD800) * 0x400 + (m - 0xDC00))], none, r'')
      else return ([], some .loneSurrogate, r'')
    | _ => return ([], some .endOfHexEscape, r)
  else return ([Char.ofNat n], none, r)

/-- Reads a string after its opening quote. `done` holds the characters read so far, last first;
the first argument bounds the number of steps. -/
def scanString : Nat → List Char → Option ParseError → List Char → StringScan
  | 0, _, refusal, _ => .fault refusal .endInString
  | _ + 1, _, refusal, [] => .fault refusal .endInString
  | fuel + 1, done, refusal, c :: r =>
    if c = '"' then .closed done.reverse refusal r
    else if c.toNat < 0x20 then .fault refusal .controlCharacter
    else if c ≠ '\\' then scanString fuel (c :: done) refusal r
    else
      match r with
      | [] => .fault refusal .endInString
      | 'u' :: r =>
        match unicodeEscape r with
        | .error e => .fault refusal e
        | .ok (cs, refusal', r) =>
          scanString fuel (cs.reverse ++ done) (refusal.or refusal') r
      | e :: r =>
        match simpleEscape? e with
        | some x => scanString fuel (x :: done) refusal r
        | none => .fault refusal .invalidEscape

/-! ## Values -/

/-- White space between the parts of a text. -/
def isSpace (c : Char) : Bool :=
  c = ' ' || c = '\n' || c = '\t' || c = '\r'

/-- The text without its leading white space. -/
def skipSpace (cs : List Char) : List Char :=
  cs.dropWhile isSpace

/-- The rest of a word whose first letter has been read. -/
def word (rest : List Char) (cs : List Char) : Except ParseError (List Char) :=
  match rest, cs with
  | [], cs => .ok cs
  | _ :: _, [] => .error .endInValue
  | w :: ws, c :: cs => if w = c then word ws cs else .error .expectedIdent

/-- A constant whose first letter has been read. -/
def constant (value : Document) (rest : String) (cs : List Char) : Document × Option (List Char) :=
  match word rest.toList cs with
  | .ok r => (value, some r)
  | .error e => (.missing (.both e), none)

/-- A number at the beginning of the text. -/
def numeral (cs : List Char) : Document × Option (List Char) :=
  match Numeral.scan cs with
  | .error f => (.missing f, none)
  | .ok (n, r) =>
    match n.value with
    | .ok x => (.number x, some r)
    | .error e => (.refused e .null, some r)

/-- A string after its opening quote. The first argument bounds the number of steps. -/
def quotation (fuel : Nat) (cs : List Char) : Document × Option (List Char) :=
  match scanString fuel [] none cs with
  | .broken f => (.missing f, none)
  | .closed s none r => (.string (String.ofList s), some r)
  | .closed _ (some e) r => (.refused e .null, some r)

/-- A list or an object below others. -/
def nested (depth : Nat) (t : Document) : Document :=
  if maxDepth ≤ depth then .refused .nestedTooDeep t else t

mutual

/-- A value at the beginning of a text, and what follows it unless the text breaks off inside the
value. The first argument bounds the number of steps, the second counts the enclosing lists and
objects. -/
def value : Nat → Nat → List Char → Document × Option (List Char)
  | 0, _, _ => (.missing (.both .endInValue), none)
  | fuel + 1, depth, cs =>
    match skipSpace cs with
    | [] => (.missing (.both .endInValue), none)
    | c :: r =>
      if c = 'n' then constant .null "ull" r
      else if c = 't' then constant (.bool true) "rue" r
      else if c = 'f' then constant (.bool false) "alse" r
      else if c = '"' then quotation fuel r
      else if c = '-' ∨ c.isDigit then numeral (c :: r)
      else if c = '[' then
        let (items, broken, rest) := items fuel (depth + 1) true r
        (nested depth (.array items broken), rest)
      else if c = '{' then
        let (members, broken, rest) := members fuel (depth + 1) true r
        (nested depth (.object members broken), rest)
      else (.missing (.both .expectedValue), none)

/-- The items of a list up to its end or to a break. -/
def items : Nat → Nat → Bool → List Char → List Document × Option Fault × Option (List Char)
  | 0, _, _, _ => ([], some (.both .endInList), none)
  | fuel + 1, depth, first, cs =>
    match skipSpace cs with
    | [] => ([], some (.both .endInList), none)
    | c :: r =>
      if c = ']' then ([], none, some r)
      else if first then item fuel depth (c :: r)
      else if c = ',' then
        match skipSpace r with
        | [] => ([], some (.both .endInValue), none)
        | d :: r =>
          if d = ']' then ([], some ⟨.trailingComma, .expectedValue⟩, none)
          else item fuel depth (d :: r)
      else ([], some (.both .expectedListCommaOrEnd), none)

/-- An item of a list and all that follow it. -/
def item : Nat → Nat → List Char → List Document × Option Fault × Option (List Char)
  | 0, _, _ => ([], some (.both .endInList), none)
  | fuel + 1, depth, cs =>
    match value fuel depth cs with
    | (t, none) => ([t], none, none)
    | (t, some rest) =>
      let (ts, broken, rest) := items fuel depth false rest
      (t :: ts, broken, rest)

/-- The members of an object up to its end or to a break. -/
def members : Nat → Nat → Bool → List Char →
    List (Except ParseError String × Document) × Option Fault × Option (List Char)
  | 0, _, _, _ => ([], some (.both .endInObject), none)
  | fuel + 1, depth, first, cs =>
    match skipSpace cs with
    | [] => ([], some (.both .endInObject), none)
    | c :: r =>
      if c = '}' then ([], none, some r)
      else if first then
        if c = '"' then member fuel depth r else ([], some (.both .keyNotString), none)
      else if c = ',' then
        match skipSpace r with
        | [] => ([], some ⟨.endInValue, .endInObject⟩, none)
        | d :: r =>
          if d = '"' then member fuel depth r
          else if d = '}' then ([], some ⟨.trailingComma, .keyNotString⟩, none)
          else ([], some (.both .keyNotString), none)
      else ([], some (.both .expectedObjectCommaOrEnd), none)

/-- A member of an object after the opening quote of its key, and all that follow it. -/
def member : Nat → Nat → List Char →
    List (Except ParseError String × Document) × Option Fault × Option (List Char)
  | 0, _, _ => ([], some (.both .endInObject), none)
  | fuel + 1, depth, cs =>
    match scanString fuel [] none cs with
    | .broken f => ([], some f, none)
    | .closed key refusal rest =>
      let key : Except ParseError String := match refusal with
        | none => .ok (String.ofList key)
        | some e => .error e
      match skipSpace rest with
      | [] => ([(key, .missing (.both .endInObject))], none, none)
      | c :: r =>
        if c = ':' then
          match value fuel depth r with
          | (t, none) => ([(key, t)], none, none)
          | (t, some rest) =>
            let (ms, broken, rest) := members fuel depth false rest
            ((key, t) :: ms, broken, rest)
        else ([(key, .missing (.both .expectedColon))], none, none)

end

/-- The value that a text begins with, and whether only white space follows it. Every step of the
reader that takes no character is followed by one that does, so the bound is never reached. -/
def read (s : String) : Document × Bool :=
  let cs := s.toList
  match value (4 * cs.length + 4) 0 cs with
  | (t, none) => (t, true)
  | (t, some rest) => (t, (skipSpace rest).isEmpty)

/-! ## The value of a text -/

mutual

/-- The value taken in as free JSON: objects become canonical, a later member replaces an earlier
one. -/
def toJson : Document → Except ParseError Json
  | .null => .ok .null
  | .bool b => .ok (.bool b)
  | .number n => .ok (.number n)
  | .string s => .ok (.string s)
  | .array items broken => do
    let js ← itemsToJson items
    match broken with
    | none => return .array js
    | some f => .error f.careful
  | .object members broken => do
    let ms ← membersToJson members
    match broken with
    | none => return (Object.ofMembers ms).toJson
    | some f => .error f.careful
  | .refused e _ => .error e
  | .missing f => .error f.careful

/-- The values of the items of a list. -/
def itemsToJson : List Document → Except ParseError (List Json)
  | [] => .ok []
  | t :: ts => do
    let j ← toJson t
    let js ← itemsToJson ts
    return j :: js

/-- The values of the members of an object, each after its key. -/
def membersToJson :
    List (Except ParseError String × Document) → Except ParseError (List (String × Json))
  | [] => .ok []
  | (k, t) :: ms => do
    let k ← k
    let j ← toJson t
    let js ← membersToJson ms
    return (k, j) :: js

end

mutual

/-- Passes over the value: only breaks count. -/
def skim : Document → Except ParseError Unit
  | .null => .ok ()
  | .bool _ => .ok ()
  | .number _ => .ok ()
  | .string _ => .ok ()
  | .array items broken => do
    skimItems items
    match broken with
    | none => return ()
    | some f => .error f.skimming
  | .object members broken => do
    skimMembers members
    match broken with
    | none => return ()
    | some f => .error f.skimming
  | .refused _ inner => skim inner
  | .missing f => .error f.skimming

/-- Passes over the items of a list. -/
def skimItems : List Document → Except ParseError Unit
  | [] => .ok ()
  | t :: ts => do
    skim t
    skimItems ts

/-- Passes over the members of an object. -/
def skimMembers : List (Except ParseError String × Document) → Except ParseError Unit
  | [] => .ok ()
  | (_, t) :: ms => do
    skim t
    skimMembers ms

end

end Document

/-- The value of a text that holds exactly one. -/
def parse (s : String) : Except ParseError Json := do
  let (t, ended) := Document.read s
  let j ← t.toJson
  if ended then return j else .error .trailingCharacters

end GeneralApplications.Json

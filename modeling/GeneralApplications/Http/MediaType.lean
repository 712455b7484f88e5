/-!
# Media types

The value of a `Content-Type` header, as far as it matters for accepting JSON: the top-level type,
the subtype with an optional suffix, and parameters that have to be well formed.
-/

namespace GeneralApplications.Http

/-- A media type without its parameters, in lower case. The suffix follows the last plus sign. -/
structure MediaType where
  type : String
  subtype : String
  suffix : Option String
  deriving DecidableEq, Repr

namespace MediaType

/-- A character of which names are made. -/
def isToken (c : Char) : Bool :=
  c.isAlphanum || "!#$%&'*+-.^_\x60|~".toList.contains c

/-- A character that may stand between quotes. -/
def isQuotable (c : Char) : Bool :=
  31 < c.toNat && c.toNat ≠ 127

/-- What follows the closing quote of a value: blanks, then the next parameter or the end. -/
def afterQuoted (cs : List Char) : Option (List Char) :=
  match cs.dropWhile (· = ' ') with
  | [] => some []
  | ';' :: r => some r
  | _ => none

/-- The rest after a quoted value. A quote right at the start does not close the value. -/
def quotedValue (cs : List Char) : Option (List Char) :=
  match cs with
  | [] => none
  | c :: r =>
    if isQuotable c then
      match r.dropWhile fun c => c ≠ '"' && isQuotable c with
      | '"' :: r => afterQuoted r
      | _ => none
    else none

/-- The rest after a value, which is quoted or made of name characters. -/
def value (cs : List Char) : Option (List Char) :=
  match cs with
  | '"' :: r => quotedValue r
  | _ =>
    match cs.takeWhile isToken, cs.dropWhile isToken with
    | _, [] => some []
    | _ :: _, ';' :: r => some r
    | _, _ => none

/-- The rest after one parameter. -/
def parameter (cs : List Char) : Option (List Char) :=
  match cs.takeWhile isToken, cs.dropWhile isToken with
  | _ :: _, '=' :: r => value r
  | _, _ => none

/-- The parameters are well formed. The first argument bounds their number. -/
def parametersOk : Nat → List Char → Bool
  | 0, _ => false
  | fuel + 1, cs =>
    match cs.dropWhile (· = ' ') with
    | [] => true
    | cs =>
      match parameter cs with
      | some rest => parametersOk fuel rest
      | none => false

/-- A text in lower case. -/
def lower (cs : List Char) : String :=
  String.ofList (cs.map Char.toLower)

/-- A subtype and its suffix: the last plus sign divides them unless it comes first. -/
def splitSuffix (cs : List Char) : List Char × Option (List Char) :=
  match cs with
  | [] => ([], none)
  | c :: r =>
    if r.contains '+' then
      let suffix := (r.reverse.takeWhile (· ≠ '+')).reverse
      (c :: r.take (r.length - suffix.length - 1), some suffix)
    else (cs, none)

/-- The media type that a header value names. -/
def ofChars? (cs : List Char) : Option MediaType :=
  if cs = "*/*".toList then some ⟨"*", "*", none⟩
  else
    match cs.takeWhile isToken, cs.dropWhile isToken with
    | t :: ts, '/' :: r =>
      let subtype := r.takeWhile isToken
      let (name, suffix) := splitSuffix subtype
      let result : MediaType := ⟨lower (t :: ts), lower name, suffix.map lower⟩
      match subtype, r.dropWhile isToken with
      | _, [] => some result
      | _ :: _, ';' :: r => if parametersOk (r.length + 1) r then some result else none
      | _, _ => none
    | _, _ => none

/-- The media type is JSON or a format based on it. -/
def isJson (m : MediaType) : Bool :=
  m.type = "application" && (m.subtype = "json" || m.suffix = some "json")

end MediaType

/-- The characters of which a readable header value is made. -/
def isHeaderText (c : Char) : Bool :=
  c = '\t' || (32 ≤ c.toNat && c.toNat < 127)

/-- The header value announces JSON. -/
def announcesJson (contentType : Option String) : Bool :=
  match contentType with
  | none => false
  | some s =>
    let cs := s.toList
    cs.all isHeaderText && (MediaType.ofChars? cs).elim false (·.isJson)

end GeneralApplications.Http

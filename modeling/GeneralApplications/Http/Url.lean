import GeneralApplications.Http.Host

/-!
# URLs

A URL is read from a text and written in its normal form: scheme and host in lower case, without
default port, with dot segments resolved and with characters percent-encoded that may not stand where
they do. A text that is not a complete URL is refused. A request is sent without the credentials of
its URL, unless these are no text.
-/

namespace GeneralApplications.Http

open Text

/-! ## Credentials -/

/-- A user name and a password, percent-encoded. -/
structure Credentials where
  user : List Char
  password : List Char
  deriving DecidableEq, Repr

namespace Credentials

/-- A part of credentials, percent-encoded. -/
def encode (cs : List Char) : List Char :=
  percentEncode " \"#<>?\x60\x7b\x7d/:;=@[\\]^|".toList.contains cs

/-- The credentials that a text denotes, with the password after the first colon, if any. -/
def ofText? (cs : List Char) : Option Credentials :=
  let (user, password) := cutAt ':' cs
  let c : Credentials := ⟨encode user, encode (password.getD [])⟩
  if c = ⟨[], []⟩ then none else some c

/-- The credentials can be sent apart from the URL: the user name is a text, and where it is empty there is
a password that is one. -/
def isSendable (c : Credentials) : Bool :=
  let isText (cs : List Char) : Bool := (decodePart? (String.ofList cs)).isSome
  isText c.user && (!c.user.isEmpty || (!c.password.isEmpty && isText c.password))

/-- The credentials as they stand in front of a host. -/
def text (c : Credentials) : List Char :=
  c.user ++ (if c.password.isEmpty then [] else ':' :: c.password) ++ ['@']

end Credentials

/-! ## URLs -/

/-- A URL in its normal form. -/
structure Url where
  scheme : List Char
  credentials : Option Credentials
  /-- The host; empty where the URL has an authority that names none. -/
  host : Option (List Char)
  /-- The port, unless it is the one of the scheme. -/
  port : Option Nat
  path : List Char
  query : Option (List Char)
  fragment : Option (List Char)
  deriving DecidableEq, Repr

namespace Url

/-! ## Schemes -/

/-- The schemes of the web with their ports. They always have a host. -/
def webPorts : List (List Char × Nat) :=
  [("http".toList, 80), ("https".toList, 443), ("ws".toList, 80), ("wss".toList, 443),
   ("ftp".toList, 21)]

/-- The port of a scheme. -/
def defaultPort (scheme : List Char) : Option Nat :=
  webPorts.lookup scheme

/-- The scheme belongs to the web. -/
def isWeb (scheme : List Char) : Bool :=
  (defaultPort scheme).isSome

/-- The scheme of local files. -/
def fileScheme : List Char := "file".toList

/-- In URLs of these schemes a backslash divides the path as a slash does. -/
def isSpecial (scheme : List Char) : Bool :=
  isWeb scheme || scheme = fileScheme

/-- The scheme in front of the first colon, and the text after it. -/
def scheme? (cs : List Char) : Option (List Char × List Char) :=
  let inScheme (c : Char) : Bool := c.isAlphanum || "+-.".toList.contains c
  match cs.takeWhile inScheme, cs.dropWhile inScheme with
  | s :: ss, ':' :: r => if s.isAlpha then some ((s :: ss).map Char.toLower, r) else none
  | _, _ => none

/-! ## Authority -/

/-- What stands between two slashes and the path. -/
structure Authority where
  credentials : Option Credentials
  host : List Char
  port : Option Nat
  deriving DecidableEq, Repr

/-- The text after the last occurrence of a character, and the text before it if it occurs. -/
def cutAtLast (c : Char) (cs : List Char) : Option (List Char) × List Char :=
  let after := (cs.reverse.takeWhile (· ≠ c)).reverse
  if cs.contains c then (some (cs.take (cs.length - after.length - 1)), after) else (none, cs)

/-- The host as written, and the text after it: a colon in brackets belongs to the host. -/
def splitHost : Bool → List Char → List Char × List Char
  | _, [] => ([], [])
  | bracketed, c :: r =>
    if c = ':' ∧ !bracketed then ([], c :: r)
    else
      let (host, rest) := splitHost (if c = '[' then true else if c = ']' then false else bracketed) r
      (c :: host, rest)

/-- The port after a host, and the text after the port, which begins with a backslash. The port of the
scheme is left out, and so is an empty one. -/
def port? (scheme : List Char) (cs : List Char) : Option (Option Nat × List Char) :=
  match cs with
  | ':' :: r =>
    let digits := r.takeWhile Char.isDigit
    let rest := r.dropWhile Char.isDigit
    let n := digitsValue digits
    if rest.head?.elim false (· ≠ '\\') ∨ 65535 < n then none
    else some (if digits.isEmpty ∨ defaultPort scheme = some n then none else some n, rest)
  | rest => some (none, rest)

/-- The authority at the beginning of a text, and the text after it. A host may be missing only outside the
web, and only together with all that could stand around it. -/
def authority? (scheme cs : List Char) : Option (Authority × List Char) := do
  let isEnd (c : Char) : Bool := c = '/' || (isSpecial scheme && c = '\\')
  let (user, place) := cutAtLast '@' (cs.takeWhile (!isEnd ·))
  if user = some [] ∧ place.isEmpty then none
  let credentials := user.bind Credentials.ofText?
  let (written, rest) := splitHost false place
  let host ← if written.isEmpty then
      if rest.isEmpty ∧ !isWeb scheme ∧ credentials.isNone then some [] else none
    else if isSpecial scheme then Host.normal? written
    else Host.opaque? written
  let (port, rest) ← port? scheme rest
  return (⟨credentials, host, port⟩, rest ++ cs.dropWhile (!isEnd ·))

/-! ## Path -/

/-- The segment stands for the directory itself. -/
def isDot (segment : List Char) : Bool :=
  [".".toList, "%2e".toList].contains (segment.map Char.toLower)

/-- The segment stands for the directory above. -/
def isDotDot (segment : List Char) : Bool :=
  ["..".toList, ".%2e".toList, "%2e.".toList, "%2e%2e".toList].contains
    (segment.map Char.toLower)

/-- The segment names a drive: a letter and a colon or a bar. -/
def isDrive : List Char → Bool
  | [c, d] => c.isAlpha && (d = ':' || d = '|')
  | _ => false

/-- The segments above the last one. There is nothing above a drive. Segments are given from the last
one. -/
def above : List (List Char) → List (List Char)
  | [] => []
  | s :: rest => if isDrive s then s :: rest else rest

/-- Dot segments resolved, the segments so far being `done`, the last one first. -/
def resolve : List (List Char) → List (List Char) → List (List Char)
  | done, [] => done.reverse
  | done, [last] =>
    if isDotDot last then ([] :: above done).reverse
    else if isDot last then ([] :: done).reverse
    else (last :: done).reverse
  | done, s :: rest =>
    if isDotDot s then resolve (above done) rest
    else if isDot s then resolve done rest
    else resolve (s :: done) rest

/-- Segments as a path, percent-encoded. -/
def joined (segments : List (List Char)) : List Char :=
  '/' :: (['/'] : List Char).intercalate
    (segments.map (percentEncode " \"<>\x60\x7b\x7d".toList.contains))

/-- The normal form of a path after its first slash. -/
def pathFrom (cs : List Char) : List Char :=
  joined (resolve [] (pieces '/' cs))

/-- The text with slashes for backslashes. -/
def withSlashes (cs : List Char) : List Char :=
  cs.map fun c => if c = '\\' then '/' else c

/-- The normal form of a path after an authority. Only outside the web it can be empty. -/
def normalPath (scheme cs : List Char) : List Char :=
  match if isSpecial scheme then withSlashes cs else cs with
  | '/' :: r => pathFrom r
  | [] => if isSpecial scheme then ['/'] else []
  | cs => pathFrom cs

/-! ### Local files -/

/-- Host and path of a local file, of which the segments of the path are given. On a drive there is no
host, and a drive is written with a colon. Empty segments in front do not count. -/
def onFile (host : List Char) (segments : List (List Char)) : List Char × List Char :=
  match resolve [] segments with
  | [] => (host, joined [[]])
  | s :: rest =>
    if isDrive s then ([], joined ((s.take 1 ++ [':']) :: rest))
    else
      match (s :: rest).dropWhile List.isEmpty with
      | [] => (host, joined [[]])
      | segments => (host, joined segments)

/-- Host and path of a local file. The machine itself needs no name, and a drive is no host. -/
def file? (cs : List Char) : Option (List Char × List Char) :=
  match withSlashes cs with
  | '/' :: '/' :: r =>
    let written := r.takeWhile (· ≠ '/')
    if isDrive written then some (onFile [] (pieces '/' r))
    else do
      let host ← if written.isEmpty then some [] else Host.normal? written
      return onFile (if host = "localhost".toList then [] else host)
        (pieces '/' ((r.dropWhile (· ≠ '/')).drop 1))
  | '/' :: r => some (onFile [] (pieces '/' r))
  | r => some (onFile [] (pieces '/' r))

/-! ## Reading -/

/-- The text without controls and spaces at its ends, and without tabs and line breaks. -/
def clean (cs : List Char) : List Char :=
  let low (c : Char) : Bool := c.toNat ≤ 0x20
  let cs := ((cs.dropWhile low).reverse.dropWhile low).reverse
  cs.filter fun c => c ≠ '\t' && c ≠ '\n' && c ≠ '\r'

/-- Authority, if any, and path of a URL, after its scheme. -/
def hierarchy? (scheme cs : List Char) : Option (Option Authority × List Char) := do
  let withAuthority (cs : List Char) : Option (Option Authority × List Char) := do
    let (authority, rest) ← authority? scheme cs
    return (some authority, normalPath scheme rest)
  if isWeb scheme then withAuthority (cs.dropWhile fun c => c = '/' || c = '\\')
  else if scheme = fileScheme then
    let (host, path) ← file? cs
    return (some ⟨none, host, none⟩, path)
  else
    match cs with
    | '/' :: '/' :: r => withAuthority r
    | '/' :: r => return (none, pathFrom r)
    | _ => return (none, percentEncode (fun _ => false) cs)

/-- The URL that a text denotes. -/
def ofText? (s : String) : Option Url := do
  let (scheme, rest) ← scheme? (clean s.toList)
  let (rest, fragment) := cutAt '#' rest
  let (rest, query) := cutAt '?' rest
  let (authority, path) ← hierarchy? scheme rest
  let querySet := if isSpecial scheme then " \"#<>'".toList else " \"#<>".toList
  return {
    scheme, path
    credentials := authority.bind (·.credentials)
    host := authority.map (·.host)
    port := authority.bind (·.port)
    query := query.map (percentEncode querySet.contains)
    fragment := fragment.map (percentEncode " \"<>\x60".toList.contains) }

/-! ## Writing -/

/-- The URL as text. A path that begins like an authority is told from one by a dot. -/
def text (u : Url) : String :=
  let place := match u.host with
    | some host =>
      ['/', '/'] ++ u.credentials.elim [] (·.text) ++ host ++
        u.port.elim [] fun p => ':' :: (toString p).toList
    | none => if ['/', '/'].isPrefixOf u.path then ['/', '.'] else []
  String.ofList (u.scheme ++ [':'] ++ place ++ u.path ++
    u.query.elim [] ('?' :: ·) ++ u.fragment.elim [] ('#' :: ·))

/-- The URL names a host. -/
def hasHost (u : Url) : Bool :=
  u.host.elim false (!·.isEmpty)

/-- The URL without credentials that can be sent apart from it. -/
def withoutCredentials (u : Url) : Url :=
  { u with credentials := u.credentials.filter (!·.isSendable) }

/-- Requests can be sent to the URL: its scheme is one of HTTP, and its host has no character that
a request line may not contain. How long the URL is does not count here. -/
def isRequestable (u : Url) : Bool :=
  (u.scheme = "http".toList || u.scheme = "https".toList) &&
    !(u.host.getD []).any "\"\x60\x7b\x7d".toList.contains

end Url

end GeneralApplications.Http

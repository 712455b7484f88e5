import GeneralApplications.Json.Basic
import GeneralApplications.Text.Digits

/-!
# Pointers into JSON values

A pointer is a text of tokens, each after a slash. A token is a key of an object or a position in a
list; `~1` in it stands for a slash and `~0` for a tilde.
-/

namespace GeneralApplications.Json

/-- The tokens of a text after its first slash. -/
def tokens : List Char → List (List Char)
  | [] => [[]]
  | '/' :: r => [] :: tokens r
  | c :: r =>
    match tokens r with
    | t :: ts => (c :: t) :: ts
    | [] => [[c]]

/-- The key that a token stands for. -/
def unescape : List Char → List Char
  | '~' :: '1' :: r => '/' :: unescape r
  | '~' :: '0' :: r => '~' :: unescape r
  | c :: r => c :: unescape r
  | [] => []

/-- The position that a token stands for: digits without a leading zero. -/
def position? (token : List Char) : Option Nat :=
  match token with
  | ['0'] => some 0
  | '0' :: _ => none
  | '+' :: _ => none
  | ds => Text.unsigned? (Nat.pow 2 64) ds

/-- The part of a value to which tokens lead. -/
def follow : List (List Char) → Json → Option Json
  | [], j => some j
  | t :: ts, .object ms => (ms.find? (·.1 = String.ofList (unescape t))).bind (follow ts ·.2)
  | t :: ts, .array js => ((position? (unescape t)).bind (js[·]?)).bind (follow ts)
  | _ :: _, .null | _ :: _, .bool _ | _ :: _, .number _ | _ :: _, .string _ => none

/-- The part of a value to which a pointer leads. -/
def at? (j : Json) (pointer : String) : Option Json :=
  match pointer.toList with
  | [] => some j
  | '/' :: r => follow (tokens r) j
  | _ => none

end GeneralApplications.Json

import GeneralApplications.Json.Basic
import GeneralApplications.Number.Shortest

/-!
# Writing JSON

The compact and the indented text of a value. Members are written in the order in which the value
holds them.
-/

namespace GeneralApplications.Json

/-- The text of a number. -/
def Number.text : Number → String
  | .int n => toString n
  | .double x => x.text

/-- One character of a string: quotes, backslashes and controls are escaped. -/
def escapeChar (c : Char) : List Char :=
  if c = '"' ∨ c = '\\' then ['\\', c]
  else if c = '\n' then ['\\', 'n']
  else if c = '\r' then ['\\', 'r']
  else if c = '\t' then ['\\', 't']
  else if c = '\x08' then ['\\', 'b']
  else if c = '\x0c' then ['\\', 'f']
  else if c.toNat < 0x20 then
    ['\\', 'u', '0', '0', if c.toNat < 16 then '0' else '1', Nat.digitChar (c.toNat % 16)]
  else [c]

/-- A string with its quotes. -/
def quote (s : String) : String :=
  String.ofList ('"' :: s.toList.flatMap escapeChar ++ ['"'])

mutual

/-- The text of a value without white space. -/
def text : Json → String
  | .null => "null"
  | .bool true => "true"
  | .bool false => "false"
  | .number n => n.text
  | .string s => quote s
  | .array items => "[" ++ itemsText items ++ "]"
  | .object members => "\x7b" ++ membersText members ++ "\x7d"

/-- The texts of the items of a list with commas between them. -/
def itemsText : List Json → String
  | [] => ""
  | [j] => text j
  | j :: js => text j ++ "," ++ itemsText js

/-- The texts of the members of an object with commas between them. -/
def membersText : List (String × Json) → String
  | [] => ""
  | [(k, j)] => quote k ++ ":" ++ text j
  | (k, j) :: ms => quote k ++ ":" ++ text j ++ "," ++ membersText ms

end

/-- The white space in front of a line. -/
def indent (depth : Nat) : String :=
  "\n" ++ String.ofList (List.replicate (2 * depth) ' ')

mutual

/-- The text of a value with each item and each member on a line of its own. -/
def pretty (depth : Nat) : Json → String
  | .array (j :: js) => "[" ++ prettyItems (depth + 1) (j :: js) ++ indent depth ++ "]"
  | .object (m :: ms) =>
    "\x7b" ++ prettyMembers (depth + 1) (m :: ms) ++ indent depth ++ "\x7d"
  | j => text j

/-- The items of a list, each on its line. -/
def prettyItems (depth : Nat) : List Json → String
  | [] => ""
  | [j] => indent depth ++ pretty depth j
  | j :: js => indent depth ++ pretty depth j ++ "," ++ prettyItems depth js

/-- The members of an object, each on its line. -/
def prettyMembers (depth : Nat) : List (String × Json) → String
  | [] => ""
  | [(k, j)] => indent depth ++ quote k ++ ": " ++ pretty depth j
  | (k, j) :: ms =>
    indent depth ++ quote k ++ ": " ++ pretty depth j ++ "," ++ prettyMembers depth ms

end

end GeneralApplications.Json

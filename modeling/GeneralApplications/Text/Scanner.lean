/-!
# Scanners

A scanner reads something from the beginning of a text and leaves the rest, or fails. Alternatives
(`<|>`) start again from where the first one began. A text that was a file may begin with a byte
order mark, which is not part of its content.
-/

namespace GeneralApplications.Text

/-- Reads from the beginning of a text, or fails. -/
abbrev Scanner : Type → Type :=
  StateT (List Char) Option

/-- The text without a byte order mark at its beginning. -/
def dropMark : List Char → List Char
  | c :: r => if c = '\uFEFF' then r else c :: r
  | [] => []

/-- The text without a beginning that it must have. -/
def dropBeginning? : List Char → List Char → Option (List Char)
  | [], cs => some cs
  | _ :: _, [] => none
  | b :: bs, c :: cs => if b = c then dropBeginning? bs cs else none

namespace Scanner

/-- The next character, left where it is. -/
def peek : Scanner (Option Char) := fun cs =>
  some (cs.head?, cs)

/-- The next character, which has to be in a class. -/
def satisfying (p : Char → Bool) : Scanner Char := fun cs =>
  match cs with
  | c :: r => if p c then some (c, r) else none
  | [] => none

/-- One given character. -/
def char (c : Char) : Scanner Unit :=
  discard (satisfying (· = c))

/-- A given word. -/
def word (s : String) : Scanner Unit := fun cs =>
  (dropBeginning? s.toList cs).map ((), ·)

/-- All the characters of a class that come next. -/
def many (p : Char → Bool) : Scanner (List Char) := fun cs =>
  some (cs.takeWhile p, cs.dropWhile p)

/-- One character of a class or more. -/
def many1 (p : Char → Bool) : Scanner (List Char) := do
  let cs ← many p
  guard !cs.isEmpty
  return cs

/-- As many characters of a class as given. -/
def exactly (p : Char → Bool) : Nat → Scanner (List Char)
  | 0 => return []
  | n + 1 => do
    let c ← satisfying p
    return c :: (← exactly p n)

/-- Something that may be missing. -/
def optionally {α : Type} (s : Scanner α) : Scanner (Option α) :=
  some <$> s <|> pure none

/-- The end of the text. -/
def ended : Scanner Unit := fun cs =>
  if cs.isEmpty then some ((), cs) else none

end Scanner

end GeneralApplications.Text

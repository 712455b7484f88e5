/-!
# Cutting texts

A text is cut at one occurrence of a character or at all of them.
-/

namespace GeneralApplications.Text

/-- The text up to a character, and the text after it if it occurs. -/
def cutAt (c : Char) (cs : List Char) : List Char × Option (List Char) :=
  match cs.dropWhile (· ≠ c) with
  | [] => (cs, none)
  | _ :: r => (cs.takeWhile (· ≠ c), some r)

/-- A text cut at each occurrence of a character. -/
def pieces (c : Char) : List Char → List (List Char)
  | [] => [[]]
  | d :: r =>
    if d = c then [] :: pieces c r
    else
      match pieces c r with
      | p :: ps => (d :: p) :: ps
      | [] => [[d]]

end GeneralApplications.Text

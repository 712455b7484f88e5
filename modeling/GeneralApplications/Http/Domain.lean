import GeneralApplications.Http.Domain.Composition
import GeneralApplications.Http.Domain.Direction
import GeneralApplications.Http.Domain.Joining
import GeneralApplications.Http.Domain.Mapping
import GeneralApplications.Http.Domain.Punycode
import GeneralApplications.Text.Scanner

/-!
# Domains

A domain is a sequence of labels between full stops. Its form in ASCII is what a URL contains: each
character is replaced by what it stands for, and each label beyond ASCII is written in Punycode. Labels
that could be taken for others are refused. A domain that is plain ASCII is only written in lower
case.
-/

namespace GeneralApplications.Http

open Text

namespace Label

/-- How labels in Punycode begin. -/
def mark : List Char :=
  "xn--".toList

/-- The label begins like one in Punycode. -/
def isMarked (label : List Char) : Bool :=
  mark.isPrefixOf label

/-- The label is in ASCII. -/
def isAscii (label : List Char) : Bool :=
  label.all fun c => c.toNat < 128

/-- No label in Punycode is longer, its mark apart. -/
def maxCode : Nat :=
  2000

/-- No label beyond ASCII is longer. -/
def maxLength : Nat :=
  1000

/-- The label that a label in Punycode stands for, and any other label itself. A label that can be written
without Punycode has to be. -/
def plain? (label : List Char) : Option (List Char) :=
  match dropBeginning? mark label with
  | none => some label
  | some code => do
    guard (isAscii code && code.length ≤ maxCode)
    let label ← Punycode.decode? code
    guard (!isAscii label && !isMarked label)
    guard (label.all Domain.isOwnImage && Domain.normalForm label = label)
    return label

/-- A label does not begin with a mark that belongs to a letter before it, and has joiners only where they
make a difference. -/
def isSound (label : List Char) : Bool :=
  !label.head?.elim false Domain.marks.contains && Domain.joinersFit [] label

/-- The label in ASCII. -/
def ascii? (label : List Char) : Option (List Char) :=
  if isAscii label then some label
  else if label.length ≤ maxLength then some (mark ++ Punycode.encode label)
  else none

end Label

namespace Domain

/-- The domain is in ASCII and has no label in Punycode. -/
def isPlain (cs : List Char) : Bool :=
  Label.isAscii cs && !(pieces '.' (cs.map Char.toLower)).any Label.isMarked

/-- A character that no domain may contain. -/
def isForbidden (c : Char) : Bool :=
  c.toNat ≤ 0x20 || c.toNat = 0x7F || "#%/:<>?@[\\]^|".toList.contains c

/-- The labels of a domain, with all characters replaced by what they stand for. -/
def labels? (cs : List Char) : Option (List (List Char)) := do
  (pieces '.' (normalForm (← mapped? cs))).mapM Label.plain?

/-- A domain that is not plain in ASCII. -/
def encoded? (cs : List Char) : Option (List Char) := do
  let labels ← labels? cs
  guard (labels.all Label.isSound && directionsFit labels)
  return (['.'] : List Char).intercalate (← labels.mapM Label.ascii?)

/-- The domain in ASCII. -/
def ascii? (cs : List Char) : Option (List Char) :=
  (if isPlain cs then some (cs.map Char.toLower) else encoded? cs).filter (!·.any isForbidden)

end Domain

end GeneralApplications.Http

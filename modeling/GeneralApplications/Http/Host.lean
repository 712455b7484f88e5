import GeneralApplications.Http.Domain
import GeneralApplications.Http.Percent

/-!
# Hosts

The host of a URL in its normal form: a domain in ASCII, an IPv4 address in four decimal numbers, or an
IPv6 address in brackets with its longest run of zeros left out.
-/

namespace GeneralApplications.Http

open Text

namespace Host

/-! ## Numbers and addresses -/

/-- The number that a part of an IPv4 address denotes: hexadecimal after `0x`, octal after `0`. -/
def part? (cs : List Char) : Option Nat :=
  let inBase (base : Nat) (ds : List Char) : Option Nat :=
    if ds.all fun c => (hexValue? c).elim false (· < base) then
      some (ds.foldl (fun n c => base * n + (hexValue? c).getD 0) 0)
    else none
  match cs with
  | [] => none
  | '0' :: x :: r => if x = 'x' ∨ x = 'X' then inBase 16 r else inBase 8 (x :: r)
  | cs => inBase 10 cs

/-- The labels of a domain without an empty one at its end. -/
def labels (domain : List Char) : List (List Char) :=
  let ls := pieces '.' domain
  if 1 < ls.length ∧ ls.getLast? = some [] then ls.dropLast else ls

/-- The domain has the form of an IPv4 address. -/
def endsInNumber (domain : List Char) : Bool :=
  match (labels domain).getLast? with
  | none => false
  | some l =>
    (!l.isEmpty && l.all Char.isDigit) ||
      match l with
      | '0' :: x :: _ => (x = 'x' || x = 'X') && (part? l).isSome
      | _ => false

/-- Four bytes as decimal numbers. -/
def ipv4Text (n : Nat) : List Char :=
  (".".intercalate ([n / 0x1000000 % 256, n / 0x10000 % 256, n / 0x100 % 256, n % 256].map
    toString)).toList

/-- An IPv4 address: up to four numbers, of which the last fills what the others leave. -/
def ipv4? (domain : List Char) : Option Nat := do
  let parts ← (labels domain).mapM part?
  if 4 < parts.length then none
  let last ← parts.getLast?
  let others := parts.dropLast
  if others.any (255 < ·) ∨ Nat.pow 256 (4 - others.length) ≤ last then none
  let high := others.foldl (fun n p => 256 * n + p) 0
  return high * Nat.pow 256 (4 - others.length) + last

/-- Groups of hexadecimal digits between colons; the last one may be an IPv4 address. -/
def groups? : List (List Char) → Option (List Nat)
  | [] => some []
  | g :: rest =>
    if rest.isEmpty ∧ g.contains '.' then do
      let parts := pieces '.' g
      if parts.length ≠ 4 then none
      let ns ← parts.mapM fun p =>
        if p.isEmpty || !p.all Char.isDigit || (p.length ≠ 1 && p.head? = some '0') then none
        else if 255 < digitsValue p then none
        else some (digitsValue p)
      match ns with
      | [a, b, c, d] => return [256 * a + b, 256 * c + d]
      | _ => none
    else if g.isEmpty || 4 < g.length then none
    else do
      let n ← hexDigitsValue? g
      return n :: (← groups? rest)

/-- The part of a text before two colons and the part after them. -/
def atGap? : List Char → Option (List Char × List Char)
  | [] => none
  | [_] => none
  | a :: b :: r =>
    if a = ':' ∧ b = ':' then some ([], r)
    else (atGap? (b :: r)).map fun (x, y) => (a :: x, y)

/-- The groups of an IPv6 address. Two colons stand for as many zeros as are missing. -/
def ipv6? (cs : List Char) : Option (List Nat) := do
  let side (cs : List Char) : Option (List Nat) :=
    if cs.isEmpty then some [] else groups? (pieces ':' cs)
  match atGap? cs with
  | none => do
    let gs ← side cs
    if gs.length = 8 then return gs else none
  | some (left, right) => do
    if left.contains '.' then none
    let ls ← side left
    let rs ← side right
    if 8 ≤ ls.length + rs.length then none
    return ls ++ List.replicate (8 - ls.length - rs.length) 0 ++ rs

/-- The length of the run of zeros at the beginning. -/
def zeros (gs : List Nat) : Nat :=
  (gs.takeWhile (· = 0)).length

/-- The position and the length of the first longest run of zeros. -/
def longestRun : Nat → List Nat → Nat × Nat
  | _, [] => (0, 0)
  | i, g :: gs =>
    let rest := longestRun (i + 1) gs
    let here := zeros (g :: gs)
    if here ≠ 0 ∧ rest.2 ≤ here then (i, here) else rest

/-- The groups of an IPv6 address as text. -/
def ipv6Text (gs : List Nat) : List Char :=
  let join (gs : List Nat) : List Char := (":".intercalate (gs.map hexText)).toList
  let (i, n) := longestRun 0 gs
  if n < 2 then join gs
  else join (gs.take i) ++ [':', ':'] ++ join (gs.drop (i + n))

/-! ## Normal form -/

/-- The normal form of a host in a URL whose scheme belongs to the web. -/
def normal? (cs : List Char) : Option (List Char) :=
  match cs with
  | '[' :: r =>
    match r.reverse with
    | ']' :: inner => do
      let gs ← ipv6? inner.reverse
      return '[' :: ipv6Text gs ++ [']']
    | _ => none
  | _ => do
    let d ← Domain.ascii? (← decodePart? (String.ofList cs)).toList
    if d.isEmpty then none
    else if endsInNumber d then ipv4Text <$> ipv4? d
    else some d

/-- The normal form of a host in any other URL: percent-encoded where it has to be. -/
def opaque? (cs : List Char) : Option (List Char) :=
  match cs with
  | '[' :: _ => normal? cs
  | _ =>
    if cs.any "\x00 #/:<>?@[\\]^|".toList.contains then none
    else some (percentEncode (fun _ => false) cs)

end Host

end GeneralApplications.Http

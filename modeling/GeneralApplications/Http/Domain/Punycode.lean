/-!
# Punycode

A text beyond ASCII written in ASCII: first its ASCII characters, then, after a minus sign, the others in
the order of their code points. For each of these it is written how far to go on, counting every place of
the text for every code point, in digits of base 36 whose thresholds adapt to the distances before.
-/

namespace GeneralApplications.Http.Punycode

/-! ## Digits -/

/-- The character of a digit in base 36. -/
def digit (n : Nat) : Char :=
  if n < 26 then Char.ofNat ('a'.toNat + n) else Char.ofNat ('0'.toNat + (n - 26))

/-- The value of a digit in base 36. -/
def digitValue? (c : Char) : Option Nat :=
  if 'a' ≤ c ∧ c ≤ 'z' then some (c.toNat - 'a'.toNat)
  else if c.isDigit then some (c.toNat - '0'.toNat + 26)
  else none

/-! ## Thresholds -/

/-- The threshold of the digit at place `k`: a digit below it is the last one. -/
def threshold (k bias : Nat) : Nat :=
  if k ≤ bias then 1 else if bias + 26 ≤ k then 26 else k - bias

/-- Divides a distance down and counts the places it took. -/
def shrink : Nat → Nat → Nat → Nat × Nat
  | 0, distance, k => (distance, k)
  | fuel + 1, distance, k =>
    if 455 < distance then shrink fuel (distance / 35) (k + 36) else (distance, k)

/-- The bias after a distance, `count` being the number of characters done with it. -/
def adapt (distance count : Nat) (first : Bool) : Nat :=
  let d := if first then distance / 700 else distance / 2
  let (d, k) := shrink d (d + d / count) 0
  k + 36 * d / (d + 38)

/-- The bias before the first distance. -/
def initialBias : Nat := 72

/-! ## Writing -/

/-- A distance in digits of base 36 with thresholds. The first argument bounds their number. -/
def distanceDigits : Nat → Nat → Nat → Nat → List Char
  | 0, _, _, _ => []
  | fuel + 1, bias, k, q =>
    let t := threshold k bias
    if q < t then [digit q]
    else
      digit (t + (q - t) % (36 - t)) :: distanceDigits fuel bias (k + 36) ((q - t) / (36 - t))

/-- What is kept while a text is written: the distance so far, the bias, how many characters are done,
whether none of them lay outside ASCII, and the output. -/
structure Progress where
  distance : Nat
  bias : Nat
  done : Nat
  first : Bool
  output : List Char

/-- Writes all occurrences of one code point. -/
def occurrence (n : Nat) (p : Progress) (c : Char) : Progress :=
  if c.toNat < n then { p with distance := p.distance + 1 }
  else if c.toNat = n then
    { distance := 0
      bias := adapt p.distance (p.done + 1) p.first
      done := p.done + 1
      first := false
      output := p.output ++ distanceDigits (p.distance + 1) p.bias 36 p.distance }
  else p

/-- The least code point of a text from a bound on. -/
def least? (n : Nat) (cs : List Char) : Option Nat :=
  ((cs.map (·.toNat)).filter (n ≤ ·)).min?

/-- Writes the code points from `n` on in increasing order. The first argument bounds their
number. -/
def points (cs : List Char) : Nat → Nat → Progress → Progress
  | 0, _, p => p
  | fuel + 1, n, p =>
    match least? n cs with
    | none => p
    | some m =>
      let p := { p with distance := p.distance + (m - n) * (p.done + 1) }
      let p := cs.foldl (occurrence m) p
      points cs fuel (m + 1) { p with distance := p.distance + 1 }

/-- The text in ASCII. -/
def encode (cs : List Char) : List Char :=
  let basic := cs.filter fun c => c.toNat < 128
  let start := if basic.isEmpty then [] else basic ++ ['-']
  (points cs cs.length 128 ⟨0, initialBias, basic.length, true, start⟩).output

/-! ## Reading -/

/-- No digit of a distance weighs as much. -/
def weightLimit : Nat :=
  Nat.pow 2 32

/-- A distance whose next digit is at place `k` and has some weight, and the text after it. -/
def distance? (bias : Nat) : Nat → Nat → List Char → Option (Nat × List Char)
  | _, _, [] => none
  | k, weight, c :: r => do
    let d ← digitValue? c
    let t := threshold k bias
    if d < t then return (d * weight, r)
    guard (weight * (36 - t) < weightLimit)
    let (more, r) ← distance? bias (k + 36) (weight * (36 - t)) r
    return (d * weight + more, r)

/-- Reads the distances that are left. `n` and `i` are the code point and the place reached, `cs` is
the text so far. The first argument bounds the number of distances. -/
def decodeFrom : Nat → Nat → Nat → Nat → List Char → List Char → Option (List Char)
  | _, _, _, _, cs, [] => some cs
  | 0, _, _, _, _, _ => none
  | fuel + 1, n, i, bias, cs, code => do
    let (distance, code) ← distance? bias 36 1 code
    let count := cs.length + 1
    let n := n + (i + distance) / count
    let place := (i + distance) % count
    guard n.isValidChar
    decodeFrom fuel n (place + 1) (adapt distance count (i = 0))
      (cs.take place ++ Char.ofNat n :: cs.drop place) code

/-- The text that is written in ASCII. A minus sign in front does not end the ASCII characters. -/
def decode? (code : List Char) : Option (List Char) :=
  let tail := (code.reverse.takeWhile (· ≠ '-')).reverse
  let basic := code.take (code.length - tail.length - 1)
  if basic.isEmpty then decodeFrom code.length 128 0 initialBias [] code
  else decodeFrom tail.length 128 0 initialBias basic tail

end GeneralApplications.Http.Punycode

import GeneralApplications.Calendar.Date
import GeneralApplications.Number.Binary64
import GeneralApplications.Text.Digits
import GeneralApplications.Text.Scanner

/-!
# Strings, numbers and dates in TOML

Scanners for the simple values of a configuration text and for its keys. Of these values only
whether they are well formed matters to a reader of flags; keys are kept.
-/

namespace GeneralApplications.Toml

open Text Text.Scanner

/-! ## Characters -/

/-- Blanks within a line. -/
def isBlank (c : Char) : Bool :=
  c = ' ' || c = '\t'

/-- A character that may stand in a comment, and in a string unless it has a meaning there. -/
def isPlain (c : Char) : Bool :=
  c = '\t' || (0x20 ≤ c.toNat && c.toNat ≠ 0x7F)

/-- Blanks within a line. -/
def blanks : Scanner Unit :=
  discard (many isBlank)

/-- A line break. -/
def lineBreak : Scanner Unit :=
  char '\n' <|> word "\r\n"

/-! ## Strings -/

/-- The code point of an escape with a fixed number of digits, if it is a character. -/
def hexChar? (digits : List Char) : Option Char := do
  let n ← hexDigitsValue? digits
  if n < 0xD800 ∨ (0xDFFF < n ∧ n < 0x110000) then return Char.ofNat n else none

/-- The character of a single-letter escape. -/
def simpleEscape? (c : Char) : Option Char :=
  if c = 'b' then some '\x08'
  else if c = 't' then some '\t'
  else if c = 'n' then some '\n'
  else if c = 'f' then some '\x0c'
  else if c = 'r' then some '\r'
  else if c = '"' ∨ c = '\\' then some c
  else none

/-- What an escape stands for, after its backslash. -/
def escape : Scanner Char := do
  let c ← satisfying fun _ => true
  if c = 'u' then hexChar? (← exactly (fun _ => true) 4)
  else if c = 'U' then hexChar? (← exactly (fun _ => true) 8)
  else simpleEscape? c

/-- The characters up to the closing double quote. The first argument bounds their number. -/
def basicBody : Nat → Scanner (List Char)
  | 0 => failure
  | fuel + 1 => do
    let c ← satisfying isPlain
    if c = '"' then return []
    else if c = '\\' then
      let x ← escape
      return x :: (← basicBody fuel)
    else return c :: (← basicBody fuel)

/-- A string in double quotes on one line. -/
def basicString : Scanner (List Char) := do
  char '"'
  basicBody ((← get).length + 1)

/-- A string in single quotes on one line. -/
def literalString : Scanner (List Char) := do
  char '\''
  let cs ← many fun c => isPlain c && c ≠ '\''
  char '\''
  return cs

/-- The text after a closing mark of three quotes; up to two more quotes belong to the string. -/
def afterQuotes (quote : Char) : List Char → Option (List Char)
  | a :: b :: c :: r =>
    if a = quote ∧ b = quote ∧ c = quote then
      match r with
      | d :: e :: r' =>
        if d = quote then if e = quote then some r' else some (e :: r') else some (d :: e :: r')
      | [d] => if d = quote then some [] else some [d]
      | [] => some []
    else none
  | _ => none

/-- A backslash that is the last mark on its line takes all blanks and line breaks after it. -/
def endsLine (cs : List Char) : Bool :=
  match cs.dropWhile isBlank with
  | '\n' :: _ => true
  | '\r' :: '\n' :: _ => true
  | _ => false

/-- The text after blanks and line breaks. -/
def skipLines : List Char → List Char
  | '\r' :: '\n' :: r => skipLines r
  | c :: r => if isBlank c || c = '\n' then skipLines r else c :: r
  | [] => []

/-- The text after a string of several lines, where escapes have a meaning or not. The first
argument bounds the number of steps. -/
def afterLines (quote : Char) (escapes : Bool) : Nat → List Char → Option (List Char)
  | 0, _ => none
  | fuel + 1, cs =>
    match afterQuotes quote cs with
    | some rest => some rest
    | none =>
      match cs with
      | [] => none
      | '\r' :: '\n' :: r => afterLines quote escapes fuel r
      | c :: r =>
        if escapes && c = '\\' then
          if endsLine r then afterLines quote escapes fuel (skipLines r)
          else
            match escape r with
            | some (_, r) => afterLines quote escapes fuel r
            | none => none
        else if isPlain c || c = '\n' then afterLines quote escapes fuel r
        else none

/-- A string of several lines. -/
def linesString (quote : Char) (escapes : Bool) : Scanner Unit := fun cs => do
  let rest ← dropBeginning? [quote, quote, quote] cs
  return ((), ← afterLines quote escapes (rest.length + 1) rest)

/-- A string of any kind. -/
def string : Scanner Unit :=
  linesString '"' true <|> discard basicString <|> linesString '\'' false <|> discard literalString

/-! ## Keys -/

/-- A character of a key that is not quoted. -/
def isBare (c : Char) : Bool :=
  c.isAlphanum || c = '-' || c = '_'

/-- One part of a key. -/
def simpleKey : Scanner String :=
  String.ofList <$> (basicString <|> literalString <|> many1 isBare)

/-! ## Numbers -/

/-- Digits that may have one underscore between neighbours, after the first one. -/
def moreDigits (p : Char → Bool) : List Char → List Char × List Char
  | [] => ([], [])
  | [c] => if p c then ([c], []) else ([], [c])
  | c :: d :: r =>
    if p c then
      let (ds, rest) := moreDigits p (d :: r)
      (c :: ds, rest)
    else if c = '_' && p d then
      let (ds, rest) := moreDigits p r
      (d :: ds, rest)
    else ([], c :: d :: r)

/-- Digits that may have underscores between them; the underscores are left out. -/
def digits (p : Char → Bool) : Scanner (List Char) := do
  let d ← satisfying p
  let ds ← (fun cs => some (moreDigits p cs) : Scanner (List Char))
  return d :: ds

/-- A sign; whether it is a minus. -/
def sign : Scanner Bool :=
  (do char '+'; return false) <|> (do char '-'; return true) <|> return false

/-- The digits of a decimal number: no leading zero unless it is the only digit. -/
def decimalDigits : Scanner (List Char) := do
  if (← peek) = some '0' then
    char '0'
    return ['0']
  else digits Char.isDigit

/-- A whole number in decimal digits within 64 bits. -/
def decimal : Scanner Unit := do
  let negative ← sign
  let n := digitsValue (← decimalDigits)
  guard (if negative then n ≤ Nat.pow 2 63 else n < Nat.pow 2 63)

/-- A whole number in another base, after its mark, within 63 bits. -/
def based (mark : String) (base : Nat) : Scanner Unit := do
  word mark
  let ds ← digits fun c => (hexValue? c).elim false (· < base)
  let n := ds.foldl (fun n c => base * n + (hexValue? c).getD 0) 0
  guard (n < Nat.pow 2 63)

/-- A whole number. -/
def integer : Scanner Unit :=
  based "0x" 16 <|> based "0o" 8 <|> based "0b" 2 <|> decimal

/-- The number `digits · 10 ^ power` is beyond the finite doubles. Without leading zeros, a number
of more than 400 places is, and one of fewer than -400 is not. -/
def overflows (digits : List Char) (power : Int) : Bool :=
  match digits.dropWhile (· = '0') with
  | [] => false
  | ds =>
    let places := (ds.length : Int) + power
    if 400 < places then true
    else if places < -400 then false
    else
      let n := digitsValue ds
      let x := match power with
        | .ofNat k => Binary64.ofRatio false (n * Nat.pow 10 k) 1
        | .negSucc k => Binary64.ofRatio false n (Nat.pow 10 (k + 1))
      x.isNone

/-- An exponent, after its mark. -/
def exponent : Scanner Int := do
  discard (satisfying fun c => c = 'e' || c = 'E')
  let negative ← sign
  let n := digitsValue (← digits Char.isDigit)
  return if negative then -n else n

/-- A number with a fraction or an exponent; a positive one must be finite. -/
def float : Scanner Unit := do
  let negative ← sign
  (word "inf" <|> word "nan") <|> do
    let whole ← decimalDigits
    let fraction ← optionally do
      char '.'
      digits Char.isDigit
    let power ← if fraction.isSome then optionally exponent else some <$> exponent
    let places := fraction.getD []
    guard (negative || !overflows (whole ++ places) (power.getD 0 - places.length))

/-! ## Dates and times -/

/-- A number of fixed width between two bounds. -/
def number (width low high : Nat) : Scanner Nat := do
  let n := digitsValue (← exactly Char.isDigit width)
  guard (low ≤ n && n ≤ high)
  return n

/-- A day of the calendar. -/
def day : Scanner Unit := do
  let year ← number 4 0 9999
  char '-'
  let month ← number 2 1 12
  char '-'
  discard (number 2 1 (daysInMonth year month))

/-- A time of day; a leap second is allowed. -/
def time : Scanner Unit := do
  discard (number 2 0 23)
  char ':'
  discard (number 2 0 59)
  char ':'
  discard (number 2 0 60)
  discard (optionally do
    char '.'
    many1 Char.isDigit)

/-- The distance of a time from universal time. -/
def zone : Scanner Unit :=
  discard (satisfying fun c => c = 'Z' || c = 'z') <|> do
    discard (satisfying fun c => c = '+' || c = '-')
    discard (number 2 0 23)
    char ':'
    discard (number 2 0 59)

/-- A date, a time or both. -/
def dateTime : Scanner Unit :=
  (do
    day
    discard (optionally do
      discard (satisfying fun c => c = 'T' || c = 't' || c = ' ')
      time
      optionally zone)) <|> time

/-- A date or a number. -/
def numeral : Scanner Unit :=
  dateTime <|> float <|> integer

end GeneralApplications.Toml

import GeneralApplications.Text.Digits
import GeneralApplications.Text.Printable

/-!
# Quoted texts in messages

A text quoted inside a message stands between double quotes. Quotes and backslashes are escaped,
the common controls have their letter escapes, and every other character that a reader could not
see on its own is shown by its code point in braces (`quoteChar`).
-/

namespace GeneralApplications.Text

/-- How one character is shown inside a quotation. -/
def quoteChar (c : Char) : List Char :=
  if c = '"' ∨ c = '\\' then ['\\', c]
  else if c = '\n' then ['\\', 'n']
  else if c = '\r' then ['\\', 'r']
  else if c = '\t' then ['\\', 't']
  else if c.toNat = 0 then ['\\', '0']
  else if isPrintable c then [c]
  else ['\\', 'u', '{'] ++ Nat.toDigits 16 c.toNat ++ ['}']

/-- The text between double quotes, with escapes where a reader needs them. -/
def quoted (s : String) : String :=
  String.ofList (['"'] ++ s.toList.flatMap quoteChar ++ ['"'])

end GeneralApplications.Text

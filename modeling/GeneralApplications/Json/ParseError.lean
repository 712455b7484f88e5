/-!
# What can be wrong with a JSON text

The faults of a text that is not JSON, with their wording. A place where the text breaks is
reported in one of two ways, depending on whether the reader was taking the value in or only
passing over it (`Fault`).
-/

namespace GeneralApplications.Json

/-- A fault of a JSON text. -/
inductive ParseError where
  | endInList
  | endInObject
  | endInString
  | endInValue
  | expectedColon
  | expectedListCommaOrEnd
  | expectedObjectCommaOrEnd
  | expectedIdent
  | expectedValue
  | invalidEscape
  | invalidNumber
  | numberOutOfRange
  | controlCharacter
  | keyNotString
  | loneSurrogate
  | endOfHexEscape
  | trailingComma
  | trailingCharacters
  | nestedTooDeep
  deriving DecidableEq, Repr

/-- The wording of a fault. -/
def ParseError.message : ParseError → String
  | endInList => "EOF while parsing a list"
  | endInObject => "EOF while parsing an object"
  | endInString => "EOF while parsing a string"
  | endInValue => "EOF while parsing a value"
  | expectedColon => "expected `:`"
  | expectedListCommaOrEnd => "expected `,` or `]`"
  | expectedObjectCommaOrEnd => "expected `,` or `\x7d`"
  | expectedIdent => "expected ident"
  | expectedValue => "expected value"
  | invalidEscape => "invalid escape"
  | invalidNumber => "invalid number"
  | numberOutOfRange => "number out of range"
  | controlCharacter => "control character (\\u0000-\\u001F) found while parsing a string"
  | keyNotString => "key must be a string"
  | loneSurrogate => "lone leading surrogate in hex escape"
  | endOfHexEscape => "unexpected end of hex escape"
  | trailingComma => "trailing comma"
  | trailingCharacters => "trailing characters"
  | nestedTooDeep => "recursion limit exceeded"

/-- A place where a text breaks off: how a reader reports it that takes the value in, and how one
that passes over the value. -/
structure Fault where
  careful : ParseError
  skimming : ParseError
  deriving DecidableEq, Repr

/-- A fault that both readers report alike. -/
def Fault.both (e : ParseError) : Fault :=
  ⟨e, e⟩

end GeneralApplications.Json

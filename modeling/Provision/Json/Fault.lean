/-!
Why a text is no JSON document, and where.
-/

namespace Provision.Json

inductive Fault where
  | endInList
  | endInObject
  | endInString
  | endInValue
  | noColon
  | noListEnd
  | noObjectEnd
  | badWord
  | noValue
  | badEscape
  | badNumber
  | numberTooLarge
  | controlInString
  | keyNotString
  | loneSurrogate
  | trailingComma
  | trailingText
  | unpairedSurrogate
  | tooDeep
  deriving Repr, DecidableEq

def Fault.message : Fault → String
  | .endInList => "EOF while parsing a list"
  | .endInObject => "EOF while parsing an object"
  | .endInString => "EOF while parsing a string"
  | .endInValue => "EOF while parsing a value"
  | .noColon => "expected `:`"
  | .noListEnd => "expected `,` or `]`"
  | .noObjectEnd => "expected `,` or `\x7d`"
  | .badWord => "expected ident"
  | .noValue => "expected value"
  | .badEscape => "invalid escape"
  | .badNumber => "invalid number"
  | .numberTooLarge => "number out of range"
  | .controlInString => "control character (\\u0000-\\u001F) found while parsing a string"
  | .keyNotString => "key must be a string"
  | .loneSurrogate => "lone leading surrogate in hex escape"
  | .trailingComma => "trailing comma"
  | .trailingText => "trailing characters"
  | .unpairedSurrogate => "unexpected end of hex escape"
  | .tooDeep => "recursion limit exceeded"

/-- A fault and how many bytes of the text lead up to its place. -/
structure Stop where
  fault : Fault
  index : Nat
  deriving Repr, DecidableEq

/-- The line of a place, counted from one. -/
def lineAt (bytes : List UInt8) (index : Nat) : Nat := 1 + (bytes.take index).count 0x0a

/-- How many bytes of its line lead up to a place. -/
def columnAt (bytes : List UInt8) (index : Nat) : Nat :=
  ((bytes.take index).reverse.takeWhile (· != 0x0a)).length

end Provision.Json

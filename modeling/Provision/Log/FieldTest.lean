import Provision.Numeral
import Provision.Regex.Reader
import Provision.Text.Split

/-!
What a directive asks of a field of an event: to be there, or to have a value. The value is a number
or a pattern for the text of the field.
-/

namespace Provision

inductive FieldTest where
  | present (name : String)
  | valued (name value : String)
  deriving Repr, DecidableEq

namespace FieldTest

/-- The field that has to be there. -/
def name : FieldTest → String
  | present name => name
  | valued name _ => name

/-- The words for numbers that are not finite. -/
def specialNumbers : List String := ["inf", "infinity", "nan"]

/-- Digits with a point in front, among or behind them, and perhaps a power of ten. -/
def isDecimal (cs : List Char) : Bool :=
  let (whole, rest) := Text.takeDigits cs
  let (fraction, rest) := match rest with
    | '.' :: rest => Text.takeDigits rest
    | rest => ([], rest)
  !(whole.isEmpty && fraction.isEmpty) && (Numeral.exponent? rest).isSome

/-- A number, with or without a sign. -/
def isNumber (cs : List Char) : Bool :=
  let (_, unsigned) := Numeral.takeSign cs
  specialNumbers.any (·.toList == Text.lowerAscii unsigned) || isDecimal unsigned

/-- Reads a name, or a name and a value with an equals sign between them. A second equals sign ends
the value. -/
def read (text : String) : Except Regex.Fault FieldTest :=
  match Text.splitOn '=' text.toList with
  | name :: value :: _ => do
    if !isNumber value then Regex.check value
    return .valued (String.ofList name) (String.ofList value)
  | _ => .ok (.present text)

end FieldTest

end Provision

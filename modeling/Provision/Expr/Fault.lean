import Provision.Json.Printer
import Provision.Text.Quoted

/-!
Why a document is no expression tree.
-/

namespace Provision.Expr

inductive Fault where
  | missing (field : String)
  | repeated (field : String)
  /-- A name that is none of the choices. -/
  | unknown (name : String) (choices : List String)
  | wrongKind (found expected : String)
  | wrongValue (found expected : String)
  | wrongCount (count : Nat) (expected : String)
  deriving Repr, DecidableEq

/-- A name as messages show it. -/
def marked (name : String) : String := "`" ++ name ++ "`"

/-- A choice among names. -/
def choiceText : List String → String
  | [a] => marked a
  | [a, b] => marked a ++ " or " ++ marked b
  | names => "one of " ++ ", ".intercalate (names.map marked)

def Fault.message : Fault → String
  | .missing field => "missing field " ++ marked field
  | .repeated field => "duplicate field " ++ marked field
  | .unknown name choices =>
    "unknown variant " ++ marked name ++ ", expected " ++ choiceText choices
  | .wrongKind found expected => "invalid type: " ++ found ++ ", expected " ++ expected
  | .wrongValue found expected => "invalid value: " ++ found ++ ", expected " ++ expected
  | .wrongCount count expected =>
    "invalid length " ++ String.ofList (Text.digits count) ++ ", expected " ++ expected

/-- What kind of document stands where another one was expected. -/
def describe : Json → String
  | .null => "null"
  | .boolean b => "boolean " ++ marked (if b then "true" else "false")
  | .number (.integer n) => "integer " ++ marked (Text.decimalText n.toInt)
  | .number (.float x) => "floating point " ++ marked (String.ofList (Json.numberText (.float x)))
  | .string s => "string " ++ Text.quoted s
  | .array _ => "sequence"
  | .object _ => "map"

/-- A number of things that are counted in a message. -/
def countText (count : Nat) : String :=
  String.ofList (Text.digits count) ++ if count = 1 then " element" else " elements"

end Provision.Expr

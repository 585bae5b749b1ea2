import Provision.Operator
import Provision.Value.Basic

/-!
The ways in which evaluation and the binding of variables fail, and the message of each.
-/

namespace Provision

/-- What asked for a number: the minus sign in front of an operand, or an arithmetic operator. -/
inductive Asker where
  | negation
  | arithmetic (op : Arithmetic)
  deriving Repr, DecidableEq

def Asker.name : Asker → String
  | .negation => "minus"
  | .arithmetic op => "'" ++ op.symbol ++ "'"

inductive EvalError where
  | notANumber (asker : Asker) (operand : Value)
  | divisionByZero (op : Arithmetic) (left right : Value)
  | overflow (op : Arithmetic) (left right : Value)
  | typeMismatch (op : BinaryOp) (left right : Value.Kind)
  | reassignment (name : String)
  | unknownScope (id : Nat)

def EvalError.message : EvalError → String
  | .notANumber asker operand =>
    asker.name ++ " operand '" ++ operand.text ++ "' is not a number"
  | .divisionByZero op left right =>
    "Division by zero in '" ++ left.text ++ " " ++ op.symbol ++ " " ++ right.text ++ "'"
  | .overflow op left right =>
    "Integer overflow in '" ++ left.text ++ " " ++ op.symbol ++ " " ++ right.text ++ "'"
  | .typeMismatch op left right =>
    "Cannot apply '" ++ op.symbol ++ "' to " ++ left.name ++ " and " ++ right.name
  | .reassignment name => "Cannot reassign variable '" ++ name ++ "'"
  | .unknownScope id => "Unknown scope #" ++ String.ofList (Text.digits id)

end Provision

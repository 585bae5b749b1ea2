import Provision.EvalError
import Provision.Integer
import Provision.Value.Compare

/-!
Operators applied to values. Two integers are calculated with as integers of 64 bits, and the
operation fails when the result does not fit; division and remainder round toward negative infinity.
As soon as one operand is a double the operation is one on doubles, which never overflows.
-/

namespace Provision.Value

/-- Why an arithmetic operation has no result. -/
inductive Refusal where
  | byZero
  | tooLarge
  | unsuited
  deriving Repr, DecidableEq

/-- An integer that was found to fit, or the refusal of one that does not. -/
def fitting : Option Int64 → Except Refusal Number
  | some n => .ok (.integer n)
  | none => .error .tooLarge

def integerResult (op : Arithmetic) (x y : Int64) : Except Refusal Number :=
  match op with
  | .plus => fitting (Integer.add? x y)
  | .minus => fitting (Integer.sub? x y)
  | .times => fitting (Integer.mul? x y)
  | .divide => if y = 0 then .error .byZero else fitting (Integer.floorDiv? x y)
  | .modulo => if y = 0 then .error .byZero else fitting (Integer.floorMod? x y)
  | .leftShift => fitting ((Integer.shiftAmount? y).bind (Integer.shiftLeft? x))
  | .rightShift => fitting ((Integer.shiftAmount? y).map (Integer.shiftRight x))

def floatResult (op : Arithmetic) (x y : Float) : Except Refusal Number :=
  match op with
  | .plus => .ok (.float (x + y))
  | .minus => .ok (.float (x - y))
  | .times => .ok (.float (x * y))
  | .divide => if Binary64.isZero y then .error .byZero else .ok (.float (x / y))
  | .modulo =>
    if Binary64.isZero y then .error .byZero else .ok (.float (Binary64.flooredRemainder x y))
  | .leftShift => .error .unsuited
  | .rightShift => .error .unsuited

def numberResult (op : Arithmetic) : Number → Number → Except Refusal Number
  | .integer x, .integer y => integerResult op x y
  | a, b => floatResult op a.toFloat b.toFloat

/-- An arithmetic operator on values; the left operand is coerced first. -/
def arithmetic (op : Arithmetic) (a b : Value) : Except EvalError Value :=
  match a.number? with
  | none => .error (.notANumber (.arithmetic op) a)
  | some m =>
    match b.number? with
    | none => .error (.notANumber (.arithmetic op) b)
    | some n =>
      match numberResult op m n with
      | .ok result => .ok (ofNumber result)
      | .error .byZero => .error (.divisionByZero op a b)
      | .error .tooLarge => .error (.overflow op a b)
      | .error .unsuited => .error (.typeMismatch (.arithmetic op) a.kind b.kind)

/-- An operator in front of a value. -/
def applyUnary (op : UnaryOp) (v : Value) : Except EvalError Value :=
  match op with
  | .minus =>
    match v.number? with
    | none => .error (.notANumber .negation v)
    | some n =>
      match n.neg? with
      | some result => .ok (ofNumber result)
      | none => .error (.overflow .minus (.integer 0) v)
  | .not => .ok (.boolean !v.isTruthy)

/-- An operator between two values, both already known. -/
def applyBinary (op : BinaryOp) (a b : Value) : Except EvalError Value :=
  match op with
  | .arithmetic op => arithmetic op a b
  | .equal => .ok (.boolean (a.equal b))
  | .notEqual => .ok (.boolean !(a.equal b))
  | .compare c =>
    match a.compare? b with
    | some o => .ok (.boolean (c.holds o))
    | none => .error (.typeMismatch (.compare c) a.kind b.kind)
  | .logical c => .ok (.boolean (c.holds a.isTruthy b.isTruthy))
  | .member =>
    match a.memberOf? b with
    | some found => .ok (.boolean found)
    | none => .error (.typeMismatch .member a.kind b.kind)

/-- Whether the left operand alone decides a binary operator: a falsy one `and`, a truthy one
`or`. The result is then its truth. -/
def decides (op : BinaryOp) (left : Value) : Bool :=
  match op with
  | .logical c => left.isTruthy == c.decidedBy
  | _ => false

end Provision.Value

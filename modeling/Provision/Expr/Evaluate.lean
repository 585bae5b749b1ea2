import Provision.Expr.Basic
import Provision.Scope
import Provision.Value.Operation

/-!
Evaluation of a tree where `lookup` gives the value of each name. Operands come before their
operator, the left before the right, and the first failure is the answer. The right operand of
`and` and `or` is left alone when the left one decides.
-/

namespace Provision.Expr

mutual

def evaluate (lookup : String → Value) : Expr → Except EvalError Value
  | .literal value => .ok value
  | .var name => .ok (lookup name)
  | .unary op operand =>
    match operand.evaluate lookup with
    | .error e => .error e
    | .ok v => v.applyUnary op
  | .binary op left right =>
    match left.evaluate lookup with
    | .error e => .error e
    | .ok a =>
      if Value.decides op a then .ok (.boolean a.isTruthy)
      else
        match right.evaluate lookup with
        | .error e => .error e
        | .ok b => a.applyBinary op b
  | .branch kind children =>
    match evaluateAll lookup children with
    | .error e => .error e
    | .ok values =>
      match kind with
      | .sequence => .ok (values.getLast?.getD .undef)
      | .list => .ok (.array values)

/-- The values of several trees, in order. -/
def evaluateAll (lookup : String → Value) : List Expr → Except EvalError (List Value)
  | [] => .ok []
  | e :: rest =>
    match e.evaluate lookup with
    | .error e => .error e
    | .ok v =>
      match evaluateAll lookup rest with
      | .error e => .error e
      | .ok values => .ok (v :: values)

end

mutual

/-- The names that an evaluation looks up, in order and with repetition. -/
def reads (lookup : String → Value) : Expr → List String
  | .literal _ => []
  | .var name => [name]
  | .unary _ operand => operand.reads lookup
  | .binary op left right =>
    left.reads lookup ++
      match left.evaluate lookup with
      | .error _ => []
      | .ok a => if Value.decides op a then [] else right.reads lookup
  | .branch _ children => readsOfAll lookup children

def readsOfAll (lookup : String → Value) : List Expr → List String
  | [] => []
  | e :: rest =>
    e.reads lookup ++
      match e.evaluate lookup with
      | .error _ => []
      | .ok _ => readsOfAll lookup rest

end

def evaluateIn (e : Expr) (tree : ScopeTree) (scope : Nat) : Except EvalError Value :=
  e.evaluate (tree.lookup scope)

def unresolvedIn (e : Expr) (tree : ScopeTree) (scope : Nat) : List String :=
  e.unresolved (tree.isDefined scope)

end Provision.Expr

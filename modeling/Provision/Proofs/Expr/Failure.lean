import Provision.Proofs.Expr.Demand

/-!
How an evaluation fails. It fails exactly where the operator of a demanded node fails on the values
of its operands, and as the first of these nodes does.
-/

namespace Provision

/-- The errors of calls on scopes. -/
def EvalError.OfScope : EvalError → Prop
  | .reassignment _ => True
  | .unknownScope _ => True
  | _ => False

namespace Value

theorem applyUnary_not_ofScope {op : UnaryOp} {v : Value} {error : EvalError}
    (fails : v.applyUnary op = .error error) : ¬ error.OfScope := by
  cases op with
  | not => cases fails
  | minus =>
    simp only [applyUnary] at fails
    split at fails
    · cases fails; exact id
    · split at fails
      · cases fails
      · cases fails; exact id

theorem arithmetic_not_ofScope {op : Arithmetic} {a b : Value} {error : EvalError}
    (fails : arithmetic op a b = .error error) : ¬ error.OfScope := by
  unfold arithmetic at fails
  split at fails
  · cases fails; exact id
  · split at fails
    · cases fails; exact id
    · split at fails <;> cases fails <;> exact id

theorem applyBinary_not_ofScope {op : BinaryOp} {a b : Value} {error : EvalError}
    (fails : a.applyBinary op b = .error error) : ¬ error.OfScope := by
  cases op with
  | arithmetic op => exact arithmetic_not_ofScope fails
  | compare c =>
    simp only [applyBinary] at fails
    split at fails <;> cases fails
    exact id
  | member =>
    simp only [applyBinary] at fails
    split at fails <;> cases fails
    exact id
  | _ => cases fails

end Value

end Provision

namespace Provision.Expr

section Operators

variable (lookup : String → Value)

def failure? {α : Type} : Except EvalError α → Option EvalError
  | .ok _ => none
  | .error error => some error

/-- How the operator of a node fails on the values of its operands, if they have values. -/
def ownFailure? : Expr → Option EvalError
  | .unary op operand =>
    match operand.evaluate lookup with
    | .ok v => failure? (v.applyUnary op)
    | .error _ => none
  | .binary op left right =>
    match left.evaluate lookup, right.evaluate lookup with
    | .ok a, .ok b => failure? (a.applyBinary op b)
    | _, _ => none
  | _ => none

def failureAt? (e : Expr) (p : Place) : Option EvalError := (e.at? p).bind (ownFailure? lookup)

/-- As `failureAt?`, where the first step of the place chooses one of several trees. -/
def failureAmong? (es : List Expr) : Place → Option EvalError
  | [] => none
  | i :: p => es[i]?.bind (failureAt? lookup · p)

/-- The node at this place is the first of the demanded ones that fails by itself. -/
def FailsFirstAt (e : Expr) (p : Place) (error : EvalError) : Prop :=
  ∃ before after, e.demanded lookup = before ++ p :: after ∧
    (∀ q ∈ before, e.failureAt? lookup q = none) ∧ e.failureAt? lookup p = some error

end Operators

section Failure

variable {lookup : String → Value}

theorem failureAt?_nil (e : Expr) : e.failureAt? lookup [] = e.ownFailure? lookup := rfl

theorem ownFailure?_logical (c : Connective) (left right : Expr) :
    (binary (.logical c) left right).ownFailure? lookup = none := by
  simp only [ownFailure?]
  split <;> rfl

theorem failureAmong?_next (e : Expr) (rest : List Expr) (p : Place) :
    failureAmong? lookup (e :: rest) p.next = failureAmong? lookup rest p := by
  cases p <;> rfl

theorem failureAt?_branch (kind : BranchKind) (cs : List Expr) :
    (branch kind cs).failureAt? lookup = failureAmong? lookup cs := by
  funext p
  cases p with
  | nil => rfl
  | cons i p => simp only [failureAt?, at?, children, failureAmong?, Option.bind_assoc]

mutual

/-- Evaluation fails as the first demanded node does that fails by itself. -/
theorem failure?_evaluate (e : Expr) :
    failure? (e.evaluate lookup) = (e.demanded lookup).findSome? (e.failureAt? lookup) := by
  cases e with
  | literal value => rfl
  | var name => rfl
  | unary op operand =>
    have below : (unary op operand).failureAt? lookup ∘ (0 :: ·) = operand.failureAt? lookup := rfl
    rw [demanded, List.findSome?_append, List.findSome?_map, below, ← failure?_evaluate operand,
      evaluate]
    cases value : operand.evaluate lookup with
    | error error => rfl
    | ok v =>
      have own : (unary op operand).failureAt? lookup [] = failure? (v.applyUnary op) := by
        simp only [failureAt?_nil, ownFailure?, value]
      simp only [failure?, Option.none_or, List.findSome?_singleton, own]
  | binary op left right =>
    have inLeft : (binary op left right).failureAt? lookup ∘ (0 :: ·) = left.failureAt? lookup :=
      rfl
    have inRight : (binary op left right).failureAt? lookup ∘ (1 :: ·) = right.failureAt? lookup :=
      rfl
    rw [demanded, List.findSome?_append, List.findSome?_append, List.findSome?_map, inLeft,
      ← failure?_evaluate left, evaluate]
    cases value : left.evaluate lookup with
    | error error => rfl
    | ok a =>
      simp only [settles, value, BinaryOp.decides_eq_settledBy]
      split
      case isTrue settled =>
        -- Settled, the operator is `and` or `or`, which never fail by themselves.
        obtain ⟨c, rfl⟩ := BinaryOp.eq_logical_of_settledBy settled
        simp only [failure?, List.findSome?_nil, List.findSome?_singleton, Option.none_or,
          failureAt?_nil, ownFailure?_logical]
      case isFalse unsettled =>
        rw [List.findSome?_map, inRight, ← failure?_evaluate right]
        cases other : right.evaluate lookup with
        | error error => rfl
        | ok b =>
          have own :
              (binary op left right).failureAt? lookup [] = failure? (a.applyBinary op b) := by
            simp only [failureAt?_nil, ownFailure?, value, other]
          simp only [failure?, Option.none_or, List.findSome?_singleton, own]
  | branch kind cs =>
    rw [demanded, List.findSome?_append, failureAt?_branch, ← failure?_evaluateAll cs, evaluate]
    cases evaluateAll lookup cs with
    | error error => rfl
    | ok values => cases kind <;> rfl

theorem failure?_evaluateAll (es : List Expr) :
    failure? (evaluateAll lookup es) =
      (demandedAmong lookup es).findSome? (failureAmong? lookup es) := by
  cases es with
  | nil => rfl
  | cons e rest =>
    have first : failureAmong? lookup (e :: rest) ∘ (0 :: ·) = e.failureAt? lookup := rfl
    have others : failureAmong? lookup (e :: rest) ∘ Place.next = failureAmong? lookup rest :=
      funext fun p => failureAmong?_next e rest p
    rw [demandedAmong, List.findSome?_append, List.findSome?_map, List.findSome?_map, first, others,
      ← failure?_evaluate e, ← failure?_evaluateAll rest, evaluateAll]
    cases e.evaluate lookup with
    | error error => rfl
    | ok v => cases evaluateAll lookup rest <;> rfl

end

/-- A tree with a demanded node that fails by itself has no value. -/
theorem evaluate_eq_error_of_failureAt? {e : Expr} {p : Place} {error : EvalError}
    (member : p ∈ e.demanded lookup) (fails : e.failureAt? lookup p = some error) :
    ∃ first, e.evaluate lookup = .error first := by
  have outcome := @failure?_evaluate lookup e
  cases value : e.evaluate lookup with
  | error first => exact ⟨first, rfl⟩
  | ok v =>
    rw [value] at outcome
    have none_fails := List.findSome?_eq_none_iff.mp outcome.symm p member
    rw [fails] at none_fails
    contradiction

theorem failure?_eq_some_iff {α : Type} (outcome : Except EvalError α) (error : EvalError) :
    failure? outcome = some error ↔ outcome = .error error := by
  cases outcome <;> simp [failure?]

theorem evaluate_eq_error_iff (e : Expr) (error : EvalError) :
    e.evaluate lookup = .error error ↔ ∃ p, e.FailsFirstAt lookup p error := by
  rw [← failure?_eq_some_iff, failure?_evaluate, List.findSome?_eq_some_iff]
  constructor
  · rintro ⟨before, p, after, order, fails, sound⟩
    exact ⟨p, before, after, order, sound, fails⟩
  · rintro ⟨p, before, after, order, sound, fails⟩
    exact ⟨before, p, after, order, fails, sound⟩

theorem ownFailure?_not_ofScope {e : Expr} {error : EvalError}
    (fails : e.ownFailure? lookup = some error) : ¬ error.OfScope := by
  cases e with
  | unary op operand =>
    simp only [ownFailure?] at fails
    split at fails
    · exact Value.applyUnary_not_ofScope ((failure?_eq_some_iff _ _).mp fails)
    · cases fails
  | binary op left right =>
    simp only [ownFailure?] at fails
    split at fails
    · exact Value.applyBinary_not_ofScope ((failure?_eq_some_iff _ _).mp fails)
    · cases fails
  | _ => cases fails

theorem evaluate_not_ofScope {e : Expr} {error : EvalError}
    (fails : e.evaluate lookup = .error error) : ¬ error.OfScope := by
  obtain ⟨p, -, -, -, -, here⟩ := (evaluate_eq_error_iff e error).mp fails
  obtain ⟨node, -, own⟩ := Option.bind_eq_some_iff.mp here
  exact ownFailure?_not_ofScope own

end Failure

end Provision.Expr

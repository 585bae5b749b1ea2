import Provision.Proofs.Expr.Failure

/-!
What makes no difference to an evaluation. A tree may stand in place of any node that is not
demanded, and in place of any that comes after the first failure and is not above it, and the
outcome is the same.
-/

namespace Provision.Expr

/-- The tree with `new` at a place; at a place outside of the tree nothing is replaced. -/
def replaceAt : Expr → Place → Expr → Expr
  | _, [], new => new
  | .unary op operand, 0 :: p, new => .unary op (operand.replaceAt p new)
  | .binary op left right, 0 :: p, new => .binary op (left.replaceAt p new) right
  | .binary op left right, 1 :: p, new => .binary op left (right.replaceAt p new)
  | .branch kind children, i :: p, new => .branch kind (children.modify i (·.replaceAt p new))
  | e, _ :: _, _ => e

theorem replaceAt_outside {e : Expr} {i : Nat} (outside : e.children[i]? = none) (p : Place)
    (new : Expr) : e.replaceAt (i :: p) new = e := by
  cases e with
  | literal value => simp only [replaceAt]
  | var name => simp only [replaceAt]
  | unary op operand =>
    match i with
    | 0 => cases outside
    | _ + 1 => simp only [replaceAt]
  | binary op left right =>
    match i with
    | 0 => cases outside
    | 1 => cases outside
    | _ + 2 => simp only [replaceAt]
  | branch kind cs =>
    rw [replaceAt, List.modify_eq_self]
    exact List.getElem?_eq_none_iff.mp outside

section Replacement

variable {lookup : String → Value}

/-- Several trees, one of which was replaced by one with the same outcome. -/
theorem evaluateAll_modify (f : Expr → Expr) {es : List Expr} {i : Nat}
    (same : ∀ c, es[i]? = some c → (f c).evaluate lookup = c.evaluate lookup) :
    evaluateAll lookup (es.modify i f) = evaluateAll lookup es := by
  induction es generalizing i with
  | nil => rw [List.modify_nil]
  | cons e rest ih =>
    cases i with
    | zero => rw [List.modify_zero_cons, evaluateAll, evaluateAll, same e rfl]
    | succ i => rw [List.modify_succ_cons, evaluateAll, evaluateAll, ih same]

/-- Several trees, one of which was replaced where an earlier one fails. -/
theorem evaluateAll_modify_of_error (f : Expr → Expr) {es : List Expr} {i j : Nat} {c : Expr}
    {error : EvalError} (before : i < j) (found : es[i]? = some c)
    (fails : c.evaluate lookup = .error error) :
    evaluateAll lookup (es.modify j f) = evaluateAll lookup es := by
  induction es generalizing i j with
  | nil => rw [List.modify_nil]
  | cons e rest ih =>
    obtain ⟨j, rfl⟩ : ∃ k, j = k + 1 := ⟨j - 1, by omega⟩
    rw [List.modify_succ_cons, evaluateAll, evaluateAll]
    cases i with
    | zero =>
      cases found
      rw [fails]
    | succ i => rw [ih (Nat.lt_of_succ_lt_succ before) found]

/-- A tree that is not demanded makes no difference. -/
theorem evaluate_replaceAt_of_not_demanded (e : Expr) (p : Place) (new : Expr)
    (free : p ∉ e.demanded lookup) : (e.replaceAt p new).evaluate lookup = e.evaluate lookup := by
  induction p generalizing e with
  | nil => exact absurd (nil_mem_demanded e) free
  | cons i p ih =>
    cases e with
    | literal value => rw [replaceAt_outside rfl]
    | var name => rw [replaceAt_outside rfl]
    | unary op operand =>
      match i with
      | 0 =>
        have same := ih operand fun member => free ((mem_demanded_unary_iff ..).mpr ⟨rfl, member⟩)
        rw [replaceAt, evaluate, evaluate, same]
      | _ + 1 => rw [replaceAt_outside rfl]
    | binary op left right =>
      match i with
      | 0 =>
        have same := ih left fun member =>
          free ((mem_demanded_binary_iff ..).mpr (.inl ⟨rfl, member⟩))
        rw [replaceAt, evaluate, evaluate, same]
      | 1 =>
        rw [replaceAt, evaluate, evaluate]
        cases value : left.evaluate lookup with
        | error error => rfl
        | ok a =>
          simp only [BinaryOp.decides_eq_settledBy]
          cases settled : op.settledBy a with
          | true => rfl
          | false =>
            have reached : settles lookup op left = false := by simp only [settles, value, settled]
            have same := ih right fun member =>
              free ((mem_demanded_binary_iff ..).mpr (.inr ⟨rfl, reached, member⟩))
            simp only [same]
      | _ + 2 => rw [replaceAt_outside rfl]
    | branch kind cs =>
      have same : evaluateAll lookup (cs.modify i (·.replaceAt p new)) = evaluateAll lookup cs :=
        evaluateAll_modify _ fun c child => ih c fun member =>
          free ((mem_demanded_branch_iff ..).mpr ⟨c, child, member⟩)
      rw [replaceAt, evaluate, evaluate, same]

/-- What lies to the right of a node that is demanded and fails makes no difference. -/
theorem evaluate_replaceAt_of_leftOf (e : Expr) {failing p : Place} {error : EvalError}
    (member : failing ∈ e.demanded lookup) (fails : e.failureAt? lookup failing = some error)
    (later : LeftOf failing p) (new : Expr) :
    (e.replaceAt p new).evaluate lookup = e.evaluate lookup := by
  induction p generalizing e failing with
  | nil => cases failing <;> exact later.elim
  | cons j p ih =>
    cases failing with
    | nil => exact later.elim
    | cons i q =>
      cases e with
      | literal value => rw [replaceAt_outside rfl]
      | var name => rw [replaceAt_outside rfl]
      | unary op operand =>
        obtain ⟨rfl, inside⟩ := (mem_demanded_unary_iff ..).mp member
        rcases later with right | ⟨rfl, later⟩
        · obtain ⟨k, rfl⟩ := Nat.exists_eq_succ_of_ne_zero (Nat.ne_of_gt right)
          rw [replaceAt_outside rfl]
        · rw [replaceAt, evaluate, evaluate, ih operand inside fails later]
      | binary op left right =>
        rcases (mem_demanded_binary_iff ..).mp member with ⟨rfl, inside⟩ | ⟨rfl, -, inside⟩
        · rcases later with beyond | ⟨rfl, later⟩
          · -- The left operand fails, so nothing is asked of the right one.
            obtain ⟨first, failed⟩ := evaluate_eq_error_of_failureAt? inside fails
            match j with
            | 1 => rw [replaceAt, evaluate, evaluate, failed]
            | _ + 2 => rw [replaceAt_outside rfl]
          · rw [replaceAt, evaluate, evaluate, ih left inside fails later]
        · rcases later with beyond | ⟨rfl, later⟩
          · obtain ⟨k, rfl⟩ : ∃ k, j = k + 2 := ⟨j - 2, by omega⟩
            rw [replaceAt_outside rfl]
          · rw [replaceAt, evaluate, evaluate, ih right inside fails later]
      | branch kind cs =>
        obtain ⟨c, child, inside⟩ := (mem_demanded_branch_iff ..).mp member
        have here : c.failureAt? lookup q = some error := by
          rw [failureAt?_branch, failureAmong?, child] at fails
          exact fails
        rw [replaceAt, evaluate, evaluate]
        rcases later with beyond | ⟨rfl, later⟩
        · obtain ⟨first, failed⟩ := evaluate_eq_error_of_failureAt? inside here
          rw [evaluateAll_modify_of_error _ beyond child failed]
        · have same :
              evaluateAll lookup (cs.modify i (·.replaceAt p new)) = evaluateAll lookup cs := by
            refine evaluateAll_modify _ fun d other => ?_
            cases child.symm.trans other
            exact ih c inside here later
          rw [same]

end Replacement

/-- What an evaluation demands and how it fails. Each node that is demanded is so once, its operands
before it and the left one first. Evaluation fails exactly where the operator of such a node fails
on the values of its operands, and it fails as the first of these nodes does, never with an error
about scopes. What is not demanded makes no difference, nor does what comes after the first failure,
but for the operators above it, whose operand it is part of. -/
theorem evaluateIn_demand (e : Expr) (tree : ScopeTree) (scope : Nat) :
    (e.demanded (tree.lookup scope)).Pairwise Earlier ∧
      ((∃ error, e.evaluateIn tree scope = .error error) ↔
        ∃ p ∈ e.demanded (tree.lookup scope), e.failureAt? (tree.lookup scope) p ≠ none) ∧
      (∀ error, e.evaluateIn tree scope = .error error ↔
        ∃ p, e.FailsFirstAt (tree.lookup scope) p error) ∧
      (∀ error, e.evaluateIn tree scope = .error error → ¬ error.OfScope) ∧
      (∀ p new, p ∉ e.demanded (tree.lookup scope) →
        (e.replaceAt p new).evaluateIn tree scope = e.evaluateIn tree scope) ∧
      ∀ first error p new, e.FailsFirstAt (tree.lookup scope) first error →
        e.DemandedAfter (tree.lookup scope) first p → ¬ p <+: first →
          (e.replaceAt p new).evaluateIn tree scope = e.evaluateIn tree scope := by
  have ordered := @demanded_pairwise (tree.lookup scope) e
  refine ⟨ordered, ⟨?_, ?_⟩, evaluate_eq_error_iff e, fun error => evaluate_not_ofScope,
    evaluate_replaceAt_of_not_demanded e, ?_⟩
  · rintro ⟨error, failed⟩
    obtain ⟨p, before, after, order, -, fails⟩ := (evaluate_eq_error_iff e error).mp failed
    exact ⟨p, by simp [order], by simp [fails]⟩
  · rintro ⟨p, member, fails⟩
    obtain ⟨error, fails⟩ := Option.ne_none_iff_exists'.mp fails
    exact evaluate_eq_error_of_failureAt? member fails
  · rintro first error p new ⟨-, -, order, -, fails⟩ ⟨before, after, order', later⟩ notAbove
    rw [order'] at ordered
    have place := (List.pairwise_cons.mp (List.pairwise_append.mp ordered).2.1).1 p later
    have right : LeftOf first p := place.resolve_right fun above => notAbove above.1
    have member : first ∈ e.demanded (tree.lookup scope) := by simp [order']
    exact evaluate_replaceAt_of_leftOf e member fails right new

def quotientByZero : Expr :=
  .binary (.arithmetic .divide) (.literal (.integer 1)) (.literal (.integer 0))

/-- The first two items leave a division by zero alone, the third one fails in its right operand,
and the fourth one would fail too. -/
def mixed : Expr :=
  .branch .list [
    .binary (.logical .and) (.literal (.boolean false)) quotientByZero,
    .binary (.logical .or) (.literal (.string "b")) quotientByZero,
    .binary (.logical .or) (.literal .undef) (.unary .minus (.literal (.string "b"))),
    .binary (.logical .and) (.literal (.boolean true)) quotientByZero]

theorem evaluateIn_demand_mixed :
    mixed.demanded (ScopeTree.new.lookup 0) =
        [[0, 0], [0], [1, 0], [1], [2, 0], [2, 1, 0], [2, 1], [2], [3, 0], [3, 1, 0], [3, 1, 1],
          [3, 1], [3], []] ∧
      mixed.evaluateIn ScopeTree.new 0 = .error (.notANumber .negation (.string "b")) ∧
      (∀ new, (mixed.replaceAt [0, 1] new).evaluateIn ScopeTree.new 0 =
        mixed.evaluateIn ScopeTree.new 0) ∧
      (∀ new, (mixed.replaceAt [1, 1] new).evaluateIn ScopeTree.new 0 =
        mixed.evaluateIn ScopeTree.new 0) ∧
      ∀ new, (mixed.replaceAt [3] new).evaluateIn ScopeTree.new 0 =
        mixed.evaluateIn ScopeTree.new 0 := by
  have order : mixed.demanded (ScopeTree.new.lookup 0) =
      [[0, 0], [0], [1, 0], [1], [2, 0], [2, 1, 0], [2, 1], [2], [3, 0], [3, 1, 0], [3, 1, 1],
        [3, 1], [3], []] := rfl
  have fails : mixed.FailsFirstAt (ScopeTree.new.lookup 0) [2, 1]
      (.notANumber .negation (.string "b")) := by
    refine ⟨[[0, 0], [0], [1, 0], [1], [2, 0], [2, 1, 0]], _, order, ?_, rfl⟩
    intro q member
    simp only [List.mem_cons, List.not_mem_nil, or_false] at member
    rcases member with rfl | rfl | rfl | rfl | rfl | rfl <;> rfl
  have later : mixed.DemandedAfter (ScopeTree.new.lookup 0) [2, 1] [3] :=
    ⟨[[0, 0], [0], [1, 0], [1], [2, 0], [2, 1, 0]], _, order, by simp⟩
  obtain ⟨-, -, failure, -, free, behind⟩ := evaluateIn_demand mixed ScopeTree.new 0
  refine ⟨order, (failure _).mpr ⟨[2, 1], fails⟩, fun new => free [0, 1] new ?_,
    fun new => free [1, 1] new ?_, fun new => behind [2, 1] _ [3] new fails later ?_⟩
  all_goals simp [order]

end Provision.Expr

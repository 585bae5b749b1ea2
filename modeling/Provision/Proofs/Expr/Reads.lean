import Provision.Expr.Evaluate
import Provision.Proofs.Expr.Walk

/-!
What an evaluation depends on. It looks up only names that are written somewhere in the tree, and
two look-ups that agree on the names it reads lead to the same outcome, be it a value or an error.
-/

namespace Provision.Expr

theorem mem_reads_of_mem_readsOfAll {lookup : String → Value} {es : List Expr} {name : String}
    (member : name ∈ readsOfAll lookup es) : ∃ e ∈ es, name ∈ e.reads lookup := by
  induction es with
  | nil => cases member
  | cons e rest ih =>
    rw [readsOfAll, List.mem_append] at member
    rcases member with here | later
    · exact ⟨e, List.mem_cons_self, here⟩
    · split at later
      · cases later
      · obtain ⟨c, present, found⟩ := ih later
        exact ⟨c, List.mem_cons_of_mem e present, found⟩

/-- Only names written in the tree are looked up, whatever the look-up gives. -/
theorem mem_varNames_of_mem_reads (lookup : String → Value) (e : Expr) {name : String}
    (member : name ∈ e.reads lookup) : name ∈ e.varNames := by
  induction e using children_induction with
  | step e ih =>
    have lift : ∀ c ∈ e.children, name ∈ c.reads lookup → name ∈ e.varNames := by
      intro c child found
      exact mem_varNames_of_child child (ih c child found)
    cases e with
    | literal value => cases member
    | var other =>
      obtain rfl : name = other := by simpa [reads] using member
      exact (mem_varNames_iff _ _).mpr (self_mem_walk _)
    | unary op operand => exact lift operand (by simp [children]) member
    | binary op left right =>
      rw [reads, List.mem_append] at member
      rcases member with inLeft | inRight
      · exact lift left (by simp [children]) inLeft
      · split at inRight
        · cases inRight
        · split at inRight
          · cases inRight
          · exact lift right (by simp [children]) inRight
    | branch kind cs =>
      obtain ⟨c, child, found⟩ := mem_reads_of_mem_readsOfAll (by simpa [reads] using member)
      exact lift c child found

mutual

/-- Two look-ups that give the same value for each name that is read under the first one lead to
the same outcome. -/
theorem evaluate_eq_of_reads (f g : String → Value) (e : Expr)
    (agree : ∀ name ∈ e.reads f, f name = g name) : e.evaluate f = e.evaluate g := by
  cases e with
  | literal value => rfl
  | var name => rw [evaluate, evaluate, agree name (by simp [reads])]
  | unary op operand =>
    rw [evaluate, evaluate, evaluate_eq_of_reads f g operand agree]
  | binary op left right =>
    have left_eq : left.evaluate f = left.evaluate g :=
      evaluate_eq_of_reads f g left fun name member =>
        agree name (by simp [reads, member])
    rw [evaluate, evaluate, ← left_eq]
    cases value : left.evaluate f with
    | error e => rfl
    | ok a =>
      cases decided : Value.decides op a with
      | true => simp only [decided, if_true]
      | false =>
        -- The right operand is reached, so its reads are reads of the whole.
        have right_eq : right.evaluate f = right.evaluate g :=
          evaluate_eq_of_reads f g right fun name member =>
            agree name (by simp [reads, value, decided, member])
        simp only [right_eq]
  | branch kind cs =>
    rw [evaluate, evaluate, evaluateAll_eq_of_reads f g cs (by simpa [reads] using agree)]

theorem evaluateAll_eq_of_reads (f g : String → Value) (es : List Expr)
    (agree : ∀ name ∈ readsOfAll f es, f name = g name) :
    evaluateAll f es = evaluateAll g es := by
  cases es with
  | nil => rfl
  | cons e rest =>
    have first_eq : e.evaluate f = e.evaluate g :=
      evaluate_eq_of_reads f g e fun name member => agree name (by simp [readsOfAll, member])
    rw [evaluateAll, evaluateAll, ← first_eq]
    cases value : e.evaluate f with
    | error e => rfl
    | ok v =>
      have rest_eq : evaluateAll f rest = evaluateAll g rest :=
        evaluateAll_eq_of_reads f g rest fun name member =>
          agree name (by simp [readsOfAll, value, member])
      simp only [rest_eq]

end

/-- Evaluation sees no more of its scope than the values of the names in the tree: two scopes, of
one tree of scopes or of two and at any depth, in which these names have the same values give the
same value or the same error. A name that is bound to `undef` counts as one that is not bound. -/
theorem evaluateIn_eq_of_lookup_eq (e : Expr) (tree₁ tree₂ : ScopeTree) (scope₁ scope₂ : Nat)
    (agree : ∀ name ∈ e.varNames, tree₁.lookup scope₁ name = tree₂.lookup scope₂ name) :
    e.evaluateIn tree₁ scope₁ = e.evaluateIn tree₂ scope₂ := by
  apply evaluate_eq_of_reads
  intro name member
  exact agree name (mem_varNames_of_mem_reads _ e member)

/-- A name bound to `undef` in an inner scope against one that is not bound at all: the sum fails
in the same way. -/
theorem evaluateIn_eq_of_lookup_eq_undef :
    let inner : ScopeTree := ⟨[⟨none, [("x", .integer 1)]⟩, ⟨some 0, [("y", .undef)]⟩]⟩
    let flat : ScopeTree := ⟨[⟨none, [("x", .integer 1), ("z", .boolean true)]⟩]⟩
    let sum : Expr := .binary (.arithmetic .plus) (.var "x") (.var "y")
    (∀ name ∈ sum.varNames, inner.lookup 1 name = flat.lookup 0 name) ∧
      sum.evaluateIn inner 1 = sum.evaluateIn flat 0 := by
  intro inner flat sum
  have agree : ∀ name ∈ sum.varNames, inner.lookup 1 name = flat.lookup 0 name := by
    intro name member
    have either : name = "x" ∨ name = "y" := by
      simpa [mem_varNames_iff, walk_eq, children, sum] using member
    rcases either with rfl | rfl <;>
      simp [inner, flat, ScopeTree.lookup, ScopeTree.get?, KeyedList.get?]
  exact ⟨agree, evaluateIn_eq_of_lookup_eq sum inner flat 1 0 agree⟩

end Provision.Expr

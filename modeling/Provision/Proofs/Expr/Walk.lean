import Provision.Expr.Basic
import Provision.Proofs.KeyedList

/-!
What the way through a tree reaches: the tree itself, what is reached from its children, and so the
names of all its variables.
-/

namespace Provision.Expr

theorem self_mem_walk (e : Expr) : e ∈ e.walk := by
  rw [walk_eq]
  exact List.mem_cons_self

theorem mem_walk_of_child {c e node : Expr} (child : c ∈ e.children) (member : node ∈ c.walk) :
    node ∈ e.walk := by
  rw [walk_eq]
  exact List.mem_cons_of_mem e (List.mem_flatMap.mpr ⟨c, child, member⟩)

/-- The names of a tree are those of its variable nodes, at any depth. -/
theorem mem_varNames_iff (e : Expr) (name : String) : name ∈ e.varNames ↔ .var name ∈ e.walk := by
  rw [varNames, KeyedList.mem_sortedNames, List.mem_filterMap]
  constructor
  · rintro ⟨node, member, isVar⟩
    cases node with
    | var other =>
      cases isVar
      exact member
    | _ => cases isVar
  · intro member
    exact ⟨.var name, member, rfl⟩

theorem mem_varNames_of_child {c e : Expr} {name : String} (child : c ∈ e.children)
    (member : name ∈ c.varNames) : name ∈ e.varNames := by
  rw [mem_varNames_iff] at member ⊢
  exact mem_walk_of_child child member

end Provision.Expr

import Provision.Proofs.KeyedList
import Provision.Scope

/-!
What the calls that change a tree of scopes do to it, and the trees that they lead to. In each of
these every scope but the root has a parent, which was there before it.
-/

namespace Provision.ScopeTree

/-- The binding of a name in one scope, whatever the ancestors of the scope bind. -/
def binding? (tree : ScopeTree) (id : Nat) (name : String) : Option Value :=
  tree.scopes[id]?.bind fun scope => KeyedList.get? name scope.vars

variable {tree after : ScopeTree} {id up : Nat} {name : String} {value : Value}

theorem parent?_eq_none_of_foreign (foreign : tree.size ≤ id) : tree.parent? id = none := by
  rw [parent?, List.getElem?_eq_none foreign, Option.bind_none]

theorem binding?_eq_none_of_foreign (foreign : tree.size ≤ id) (name : String) :
    tree.binding? id name = none := by
  rw [binding?, List.getElem?_eq_none foreign, Option.bind_none]

theorem lt_size_of_parent? (parent : tree.parent? id = some up) : id < tree.size := by
  refine Nat.lt_of_not_le fun foreign => ?_
  rw [parent?_eq_none_of_foreign foreign] at parent
  contradiction

section Define

/-- `after` differs from `tree` in one thing: the scope `id` binds the name to the value. -/
structure Bound (tree : ScopeTree) (id : Nat) (name : String) (value : Value)
    (after : ScopeTree) : Prop where
  size_eq : after.size = tree.size
  parent?_eq : ∀ i, after.parent? i = tree.parent? i
  binding?_eq : ∀ i m,
    after.binding? i m = if i = id ∧ m = name then some value else tree.binding? i m

theorem bound_set {scope : Scope} (present : tree.scopes[id]? = some scope) (name : String)
    (value : Value) :
    tree.Bound id name value
      ⟨tree.scopes.set id { scope with vars := KeyedList.insert name value scope.vars }⟩ := by
  obtain ⟨valid, -⟩ := List.getElem?_eq_some_iff.mp present
  refine ⟨List.length_set, fun i => ?_, fun i m => ?_⟩
  · rw [parent?, parent?, List.getElem?_set]
    split
    case isTrue same =>
      subst same
      simp only [Option.bind_some, present]
    case isFalse => rfl
  · rw [binding?, binding?, List.getElem?_set]
    split
    case isTrue same =>
      subst same
      simp only [Option.bind_some, present, true_and, KeyedList.get?_insert]
    case isFalse different => rw [if_neg fun h => different h.1.symm]

/-- All that `define` can do. -/
theorem define_cases (tree : ScopeTree) (id : Nat) (name : String) (value : Value) :
    (tree.size ≤ id ∧ tree.define id name value = .error (.unknownScope id)) ∨
      (id < tree.size ∧ tree.binding? id name ≠ none ∧
        tree.define id name value = .error (.reassignment name)) ∨
      (id < tree.size ∧ tree.binding? id name = none ∧
        ∃ after, tree.define id name value = .ok after ∧ tree.Bound id name value after) := by
  cases present : tree.scopes[id]? with
  | none => exact .inl ⟨List.getElem?_eq_none_iff.mp present, by simp only [define, present]⟩
  | some scope =>
    obtain ⟨valid, -⟩ := List.getElem?_eq_some_iff.mp present
    have own : tree.binding? id name = KeyedList.get? name scope.vars := by
      rw [binding?, present, Option.bind_some]
    cases bound : KeyedList.get? name scope.vars with
    | some old =>
      refine .inr (.inl ⟨valid, ?_, by simp only [define, present, bound]⟩)
      rw [own, bound]
      exact Option.some_ne_none old
    | none =>
      exact .inr (.inr ⟨valid, own.trans bound, _, by simp only [define, present, bound],
        bound_set present name value⟩)

end Define

section Child

/-- `after` is `tree` with one more scope, which binds nothing and lies inside `parent`. -/
structure Opened (tree : ScopeTree) (parent : Nat) (after : ScopeTree) : Prop where
  size_eq : after.size = tree.size + 1
  parent?_old : ∀ i < tree.size, after.parent? i = tree.parent? i
  parent?_new : after.parent? tree.size = some parent
  binding?_old : ∀ i < tree.size, ∀ m, after.binding? i m = tree.binding? i m
  binding?_new : ∀ m, after.binding? tree.size m = none

theorem opened_append (tree : ScopeTree) (parent : Nat) :
    tree.Opened parent ⟨tree.scopes ++ [⟨some parent, []⟩]⟩ where
  size_eq := by simp only [size, List.length_append, List.length_singleton]
  parent?_old i valid := by rw [parent?, parent?, List.getElem?_append_left valid]
  parent?_new := by simp only [parent?, size, List.getElem?_concat_length, Option.bind_some]
  binding?_old i valid m := by rw [binding?, binding?, List.getElem?_append_left valid]
  binding?_new m := by
    simp only [binding?, size, List.getElem?_concat_length, Option.bind_some, KeyedList.get?]

/-- All that `child` can do. -/
theorem child_cases (tree : ScopeTree) (parent : Nat) :
    (tree.size ≤ parent ∧ tree.child parent = .error (.unknownScope parent)) ∨
      (parent < tree.size ∧
        ∃ after, tree.child parent = .ok (after, tree.size) ∧ tree.Opened parent after) := by
  cases present : tree.scopes[parent]? with
  | none => exact .inl ⟨List.getElem?_eq_none_iff.mp present, by simp only [child, present]⟩
  | some scope =>
    obtain ⟨valid, -⟩ := List.getElem?_eq_some_iff.mp present
    exact .inr ⟨valid, _, by simp only [child, present], opened_append tree parent⟩

end Child

section Calls

theorem perform_child_eq {outcome : Except EvalError (ScopeTree × Nat)} {parent : Nat}
    (h : tree.child parent = outcome) :
    tree.perform (.child parent) =
      (outcome.map fun opened => some opened.2, (outcome.toOption.map (·.1)).getD tree) := by
  -- Spelled out, so that the outcome can take the place of the call.
  change (liftM (tree.child parent) >>= fun opened => do set opened.1; return some opened.2 :
    ExceptT EvalError (StateM ScopeTree) (Option Nat)).run.run tree = _
  rw [h]
  cases outcome <;> rfl

theorem perform_define_eq {outcome : Except EvalError ScopeTree}
    (h : tree.define id name value = outcome) :
    tree.perform (.define id name value) =
      (outcome.map fun _ => none, outcome.toOption.getD tree) := by
  change (liftM (tree.define id name value) >>= fun after => do set after; return none :
    ExceptT EvalError (StateM ScopeTree) (Option Nat)).run.run tree = _
  rw [h]
  cases outcome <;> rfl

theorem perform_child_cases (tree : ScopeTree) (parent : Nat) :
    (tree.size ≤ parent ∧
        tree.perform (.child parent) = (.error (.unknownScope parent), tree)) ∨
      (parent < tree.size ∧ ∃ after,
        tree.perform (.child parent) = (.ok (some tree.size), after) ∧
          tree.Opened parent after) := by
  rcases tree.child_cases parent with ⟨foreign, failed⟩ | ⟨valid, after, done, opened⟩
  · exact .inl ⟨foreign, perform_child_eq failed⟩
  · exact .inr ⟨valid, after, perform_child_eq done, opened⟩

theorem perform_define_cases (tree : ScopeTree) (id : Nat) (name : String) (value : Value) :
    (tree.size ≤ id ∧
        tree.perform (.define id name value) = (.error (.unknownScope id), tree)) ∨
      (id < tree.size ∧ tree.binding? id name ≠ none ∧
        tree.perform (.define id name value) = (.error (.reassignment name), tree)) ∨
      (id < tree.size ∧ tree.binding? id name = none ∧ ∃ after,
        tree.perform (.define id name value) = (.ok none, after) ∧
          tree.Bound id name value after) := by
  rcases tree.define_cases id name value with
    ⟨foreign, failed⟩ | ⟨valid, binds, failed⟩ | ⟨valid, unbound, after, done, bound⟩
  · exact .inl ⟨foreign, perform_define_eq failed⟩
  · exact .inr (.inl ⟨valid, binds, perform_define_eq failed⟩)
  · exact .inr (.inr ⟨valid, unbound, after, perform_define_eq done, bound⟩)

/-- The trees that calls lead to from a new one, whatever the scopes that they name and whether or
not they fail. -/
inductive Reachable : ScopeTree → Prop
  | new : Reachable .new
  | perform {tree : ScopeTree} (before : Reachable tree) (call : Call) :
      Reachable (tree.perform call).2

/-- The tree after calls that are made one after the other. -/
def performAll (tree : ScopeTree) (calls : List Call) : ScopeTree :=
  calls.foldl (fun tree call => (tree.perform call).2) tree

theorem Reachable.performAll (reachable : tree.Reachable) (calls : List Call) :
    (tree.performAll calls).Reachable := by
  induction calls generalizing tree with
  | nil => exact reachable
  | cons call rest ih => exact ih (reachable.perform call)

/-- There is a root, it has no parent, and all other scopes have one, which was there before
them. -/
structure Ordered (tree : ScopeTree) : Prop where
  nonempty : 0 < tree.size
  parent?_root : tree.parent? root = none
  exists_parent : ∀ id, id ≠ root → id < tree.size → ∃ up, tree.parent? id = some up ∧ up < id

theorem Ordered.parent_lt (ordered : tree.Ordered) (parent : tree.parent? id = some up) :
    up < id := by
  have inner : id ≠ root := by
    rintro rfl
    rw [ordered.parent?_root] at parent
    contradiction
  obtain ⟨other, found, earlier⟩ := ordered.exists_parent id inner (lt_size_of_parent? parent)
  rw [parent, Option.some_inj] at found
  exact found ▸ earlier

theorem ordered_new : new.Ordered where
  nonempty := Nat.one_pos
  parent?_root := rfl
  exists_parent _ inner valid := absurd (Nat.lt_one_iff.mp valid) inner

theorem Ordered.bound (ordered : tree.Ordered) (bound : tree.Bound id name value after) :
    after.Ordered where
  nonempty := bound.size_eq ▸ ordered.nonempty
  parent?_root := (bound.parent?_eq root).trans ordered.parent?_root
  exists_parent i inner valid := by
    rw [bound.parent?_eq]
    exact ordered.exists_parent i inner (bound.size_eq ▸ valid)

theorem Ordered.opened (ordered : tree.Ordered) {parent : Nat} (valid : parent < tree.size)
    (opened : tree.Opened parent after) : after.Ordered where
  nonempty := by rw [opened.size_eq]; exact Nat.succ_pos _
  parent?_root := (opened.parent?_old root ordered.nonempty).trans ordered.parent?_root
  exists_parent i inner within := by
    rw [opened.size_eq] at within
    rcases Nat.lt_succ_iff_lt_or_eq.mp within with old | rfl
    · rw [opened.parent?_old i old]
      exact ordered.exists_parent i inner old
    · exact ⟨parent, opened.parent?_new, valid⟩

theorem Ordered.perform (ordered : tree.Ordered) (call : Call) : (tree.perform call).2.Ordered := by
  cases call with
  | child parent =>
    rcases tree.perform_child_cases parent with ⟨-, failed⟩ | ⟨valid, after, done, opened⟩
    · rw [failed]
      exact ordered
    · rw [done]
      exact ordered.opened valid opened
  | define id name value =>
    rcases tree.perform_define_cases id name value with
      ⟨-, failed⟩ | ⟨-, -, failed⟩ | ⟨-, -, after, done, bound⟩
    · rw [failed]
      exact ordered
    · rw [failed]
      exact ordered
    · rw [done]
      exact ordered.bound bound

theorem Reachable.ordered (reachable : tree.Reachable) : tree.Ordered := by
  induction reachable with
  | new => exact ordered_new
  | perform _ call ih => exact ih.perform call

end Calls

end Provision.ScopeTree

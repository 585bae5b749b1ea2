import Provision.Proofs.Scope.Lineage

/-!
What a call changes of what the scopes of a tree see. A new binding is seen from its scope and from
those below it, but for those that have a nearer binding of the name; a new scope sees what its
parent sees; nothing else changes, and nothing at all where the call fails.
-/

namespace Provision.ScopeTree

/-- On the way up from the scope `i` one comes to the scope `id`, and no scope before it binds the
name. -/
def Sees (tree : ScopeTree) (i id : Nat) (name : String) : Prop :=
  ∃ before after, tree.IsLineage i (before ++ id :: after) ∧
    ∀ s ∈ before, tree.binding? s name = none

variable {tree after : ScopeTree} {i id parent : Nat} {line : List Nat} {name : String}
  {value : Value}

section Define

theorem IsLineage.bound (bound : tree.Bound id name value after)
    (isLineage : tree.IsLineage i line) : after.IsLineage i line := by
  induction isLineage with
  | top valid parentless =>
    exact .top (bound.size_eq ▸ valid) ((bound.parent?_eq _).trans parentless)
  | inside up _ ih => exact .inside ((bound.parent?_eq _).trans up) ih

/-- The binding is found from where its scope is seen. -/
theorem Bound.get?_of_sees (bound : tree.Bound id name value after) (ordered : tree.Ordered)
    (sees : tree.Sees i id name) : after.get? i name = some value := by
  obtain ⟨before, rest, isLineage, unbound⟩ := sees
  -- The way up descends, so a scope before `id` on it is another one and binds what it bound.
  have apart : ∀ s ∈ before, s ≠ id := by
    intro s member
    have descends := List.pairwise_append.mp (isLineage.pairwise_gt ordered)
    exact Nat.ne_of_gt (descends.2.2 s member id List.mem_cons_self)
  rw [(isLineage.bound bound).get?_eq (ordered.bound bound), List.findSome?_eq_some_iff]
  refine ⟨before, id, rest, rfl, ?_, fun s member => ?_⟩
  · rw [bound.binding?_eq, if_pos ⟨rfl, rfl⟩]
  · rw [bound.binding?_eq, if_neg fun same => apart s member same.1]
    exact unbound s member

/-- From a way on which the scope is not seen, what was found before is found. -/
theorem Bound.findSome?_of_hidden (bound : tree.Bound id name value after)
    (hidden : ¬ ∃ before rest, line = before ++ id :: rest ∧
      ∀ s ∈ before, tree.binding? s name = none) :
    line.findSome? (after.binding? · name) = line.findSome? (tree.binding? · name) := by
  induction line with
  | nil => rfl
  | cons s rest ih =>
    have different : s ≠ id := by
      rintro rfl
      exact hidden ⟨[], rest, rfl, List.forall_mem_nil _⟩
    rw [List.findSome?_cons, List.findSome?_cons, bound.binding?_eq,
      if_neg fun same => different same.1]
    cases own : tree.binding? s name with
    | some _ => rfl
    | none =>
      -- Where the first scope binds nothing, the rest hides the scope as well.
      refine ih ?_
      rintro ⟨before, rest', rfl, unbound⟩
      exact hidden ⟨s :: before, rest', rfl, List.forall_mem_cons.mpr ⟨own, unbound⟩⟩

theorem Bound.get?_of_not_sees (bound : tree.Bound id name value after) (ordered : tree.Ordered)
    (valid : i < tree.size) {m : String} (elsewhere : ¬ (m = name ∧ tree.Sees i id name)) :
    after.get? i m = tree.get? i m := by
  have isLineage := ordered.isLineage valid
  by_cases same : m = name
  · subst same
    rw [(isLineage.bound bound).get?_eq (ordered.bound bound), isLineage.get?_eq ordered]
    refine bound.findSome?_of_hidden ?_
    rintro ⟨before, rest, split, unbound⟩
    exact elsewhere ⟨rfl, before, rest, split ▸ isLineage, unbound⟩
  · refine isLineage.get?_congr ordered (ordered.bound bound) (isLineage.bound bound) ?_
    intro s _
    rw [bound.binding?_eq, if_neg fun both => same both.2]

end Define

section Child

theorem IsLineage.opened (opened : tree.Opened parent after)
    (isLineage : tree.IsLineage i line) : after.IsLineage i line := by
  induction isLineage with
  | top valid parentless =>
    refine .top ?_ ((opened.parent?_old _ valid).trans parentless)
    rw [opened.size_eq]
    exact Nat.lt_succ_of_lt valid
  | inside up _ ih => exact .inside ((opened.parent?_old _ (lt_size_of_parent? up)).trans up) ih

theorem Opened.get?_old (opened : tree.Opened parent after) (ordered : tree.Ordered)
    (inTree : parent < tree.size) (valid : i < tree.size) (m : String) :
    after.get? i m = tree.get? i m := by
  have isLineage := ordered.isLineage valid
  refine isLineage.get?_congr ordered (ordered.opened inTree opened) (isLineage.opened opened) ?_
  intro s member
  exact opened.binding?_old s (Nat.lt_of_le_of_lt (isLineage.le_of_mem ordered s member) valid) m

theorem Opened.get?_new (opened : tree.Opened parent after) (ordered : tree.Ordered)
    (inTree : parent < tree.size) (m : String) :
    after.get? tree.size m = tree.get? parent m := by
  rw [(ordered.opened inTree opened).get?_eq_or_get? opened.parent?_new, opened.binding?_new,
    Option.none_or, opened.get?_old ordered inTree inTree]

end Child

section Outcome

variable {answer : Option Nat}

theorem perform_define_eq_error_iff (e : EvalError) :
    (tree.perform (.define id name value)).1 = .error e ↔
      (tree.size ≤ id ∧ e = .unknownScope id) ∨
        (tree.binding? id name ≠ none ∧ e = .reassignment name) := by
  rcases tree.perform_define_cases id name value with
    ⟨foreign, failed⟩ | ⟨valid, binds, failed⟩ | ⟨valid, unbound, after, done, -⟩
  · have unbound := binding?_eq_none_of_foreign foreign name
    simp only [failed, Except.error.injEq, foreign, true_and, unbound, ne_eq, not_true_eq_false,
      false_and, or_false, eq_comm]
  · simp only [failed, Except.error.injEq, Nat.not_le.mpr valid, false_and, false_or, ne_eq, binds,
      not_false_eq_true, true_and, eq_comm]
  · simp only [done, reduceCtorEq, Nat.not_le.mpr valid, false_and, unbound, ne_eq,
      not_true_eq_false, or_false]

theorem perform_child_eq_error_iff (e : EvalError) :
    (tree.perform (.child parent)).1 = .error e ↔
      tree.size ≤ parent ∧ e = .unknownScope parent := by
  rcases tree.perform_child_cases parent with ⟨foreign, failed⟩ | ⟨valid, after, done, -⟩
  · simp only [failed, Except.error.injEq, foreign, true_and, eq_comm]
  · simp only [done, reduceCtorEq, Nat.not_le.mpr valid, false_and]

theorem bound_of_perform (done : tree.perform (.define id name value) = (.ok answer, after)) :
    tree.Bound id name value after := by
  rcases tree.perform_define_cases id name value with
    ⟨-, failed⟩ | ⟨-, -, failed⟩ | ⟨-, -, after', done', bound⟩
  · cases failed.symm.trans done
  · cases failed.symm.trans done
  · cases done'.symm.trans done
    exact bound

theorem opened_of_perform (done : tree.perform (.child parent) = (.ok answer, after)) :
    parent < tree.size ∧ answer = some tree.size ∧ tree.Opened parent after := by
  rcases tree.perform_child_cases parent with ⟨-, failed⟩ | ⟨valid, after', done', opened⟩
  · cases failed.symm.trans done
  · cases done'.symm.trans done
    exact ⟨valid, rfl, opened⟩

theorem perform_eq_of_error {call : Call} {e : EvalError}
    (failed : tree.perform call = (.error e, after)) : after = tree := by
  cases call with
  | child parent =>
    rcases tree.perform_child_cases parent with ⟨-, failed'⟩ | ⟨-, _, done, -⟩
    · cases failed'.symm.trans failed
      rfl
    · cases done.symm.trans failed
  | define id name value =>
    rcases tree.perform_define_cases id name value with
      ⟨-, failed'⟩ | ⟨-, -, failed'⟩ | ⟨-, -, _, done, -⟩
    · cases failed'.symm.trans failed
      rfl
    · cases failed'.symm.trans failed
      rfl
    · cases done.symm.trans failed

end Outcome

/-- What calls change of what is found. Binding a name fails just for an id that is no scope and for
a scope that binds the name itself; else the value is found from each scope that sees the one it is
bound in, and there is no other change. Opening a scope fails just for an id that is no scope; else
the new scope has the next id and finds what its parent finds, and the others find what they found.
A call that fails changes nothing. -/
theorem Reachable.perform_effect (reachable : tree.Reachable) :
    (∀ id name value,
      (∀ e, (tree.perform (.define id name value)).1 = .error e ↔
        (tree.size ≤ id ∧ e = .unknownScope id) ∨
          (tree.binding? id name ≠ none ∧ e = .reassignment name)) ∧
      ∀ answer after, tree.perform (.define id name value) = (.ok answer, after) →
        after.size = tree.size ∧ ∀ i < tree.size, ∀ m,
          (m = name ∧ tree.Sees i id name → after.get? i m = some value) ∧
            (¬ (m = name ∧ tree.Sees i id name) → after.get? i m = tree.get? i m)) ∧
    (∀ parent,
      (∀ e, (tree.perform (.child parent)).1 = .error e ↔
        tree.size ≤ parent ∧ e = .unknownScope parent) ∧
      ∀ answer after, tree.perform (.child parent) = (.ok answer, after) →
        answer = some tree.size ∧ after.size = tree.size + 1 ∧
          (∀ m, after.get? tree.size m = tree.get? parent m) ∧
          ∀ i < tree.size, ∀ m, after.get? i m = tree.get? i m) ∧
    ∀ call e after, tree.perform call = (.error e, after) →
      after.size = tree.size ∧ ∀ i m, after.get? i m = tree.get? i m := by
  have ordered := reachable.ordered
  refine ⟨fun id name value => ⟨perform_define_eq_error_iff, fun answer after done => ?_⟩,
    fun parent => ⟨perform_child_eq_error_iff, fun answer after done => ?_⟩,
    fun call e after failed => ?_⟩
  · have bound := bound_of_perform done
    refine ⟨bound.size_eq, fun i valid m => ⟨?_, bound.get?_of_not_sees ordered valid⟩⟩
    rintro ⟨rfl, sees⟩
    exact bound.get?_of_sees ordered sees
  · obtain ⟨inTree, new, opened⟩ := opened_of_perform done
    exact ⟨new, opened.size_eq, opened.get?_new ordered inTree,
      fun i valid => opened.get?_old ordered inTree valid⟩
  · rw [perform_eq_of_error failed]
    exact ⟨rfl, fun _ _ => rfl⟩

/-- An operating system for the outermost scope: the middle one sees it, the innermost has its
own. -/
theorem perform_effect_host :
    let named := (host.perform (.define 0 "os" (.string "bsd"))).2
    let opened := (host.perform (.child 1)).2
    host.Reachable ∧ host.Sees 1 0 "os" ∧ named.get? 1 "os" = some (.string "bsd") ∧
      ¬ host.Sees 2 0 "os" ∧ named.get? 2 "os" = host.get? 2 "os" ∧
      opened.get? 3 "port" = host.get? 1 "port" ∧
      (host.perform (.define 2 "os" .undef)).1 = .error (.reassignment "os") ∧
      (host.perform (.define 2 "os" .undef)).2.get? 2 "os" = host.get? 2 "os" := by
  intro named opened
  have reachable : host.Reachable := Reachable.new.performAll _
  have sees : host.Sees 1 0 "os" :=
    ⟨[1], [], .inside rfl (.top (by decide +kernel) rfl), List.forall_mem_singleton.mpr rfl⟩
  have hidden : ¬ host.Sees 2 0 "os" := by
    rintro ⟨before, rest, way, unbound⟩
    have split := way.eq_lineage reachable.ordered
    rw [show host.lineage 2 = [2, 1, 0] by decide +kernel] at split
    cases before with
    | nil => cases split
    | cons s above =>
      obtain ⟨rfl, -⟩ := List.cons.inj split
      cases unbound 2 List.mem_cons_self
  obtain ⟨defining, opening, failing⟩ := reachable.perform_effect
  obtain ⟨-, seen⟩ := (defining 0 "os" (.string "bsd")).2 none named rfl
  obtain ⟨-, -, inherits, -⟩ := (opening 1).2 (some 3) opened rfl
  exact ⟨reachable, sees, (seen 1 (by decide +kernel) "os").1 ⟨rfl, sees⟩, hidden,
    (seen 2 (by decide +kernel) "os").2 fun both => hidden both.2, inherits "port",
    ((defining 2 "os" .undef).1 _).mpr (.inr ⟨nofun, rfl⟩),
    (failing (.define 2 "os" .undef) (.reassignment "os") _ rfl).2 2 "os"⟩

end Provision.ScopeTree

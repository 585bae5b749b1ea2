import Provision.Proofs.Scope.Calls

/-!
The way up from a scope. In every tree that calls lead to it goes through ever earlier scopes and
ends at the root, so that the search for a name, which nothing else bounds, ends as well, with the
first binding on the way.
-/

namespace Provision.ScopeTree

/-- A scope and its ancestors, nearest first. -/
def lineage (tree : ScopeTree) (id : Nat) : List Nat := id :: tree.ancestors id

/-- The list is the way up from a scope, parent after parent, to a scope without one. -/
inductive IsLineage (tree : ScopeTree) : Nat → List Nat → Prop
  | top {id : Nat} (valid : id < tree.size) (parentless : tree.parent? id = none) :
      IsLineage tree id [id]
  | inside {id up : Nat} {line : List Nat} (parent : tree.parent? id = some up)
      (rest : IsLineage tree up line) : IsLineage tree id (id :: line)

/-- The search for a name, from a scope or from past the root, ends with an answer. Each round looks
at one scope and goes on to its parent, wherever in the tree that may be, so that a search which
runs in a circle has no answer. -/
inductive Search (tree : ScopeTree) (name : String) : Option Nat → Option Value → Prop
  | pastRoot : Search tree name none none
  | foreign {id : Nat} (absent : tree.scopes[id]? = none) : Search tree name (some id) none
  | found {id : Nat} {scope : Scope} {value : Value} (present : tree.scopes[id]? = some scope)
      (bound : KeyedList.get? name scope.vars = some value) :
      Search tree name (some id) (some value)
  | onward {id : Nat} {scope : Scope} {answer : Option Value}
      (present : tree.scopes[id]? = some scope) (unbound : KeyedList.get? name scope.vars = none)
      (rest : Search tree name scope.parent answer) : Search tree name (some id) answer

variable {tree : ScopeTree} {id up : Nat} {line : List Nat} {name : String}

section Lineage

theorem Ordered.ancestors_eq (ordered : tree.Ordered) (parent : tree.parent? id = some up) :
    tree.ancestors id = tree.lineage up := by
  rw [ancestors, parent]
  simp only [ordered.parent_lt parent, if_true, lineage]

theorem Ordered.isLineage (ordered : tree.Ordered) (valid : id < tree.size) :
    tree.IsLineage id (tree.lineage id) := by
  -- A parent is an earlier scope, but it need not be the one just before.
  induction id using Nat.strongRecOn with
  | _ id ih =>
    cases parent : tree.parent? id with
    | none =>
      rw [lineage, ancestors, parent]
      exact .top valid parent
    | some up =>
      have earlier := ordered.parent_lt parent
      rw [lineage, ordered.ancestors_eq parent]
      exact .inside parent (ih up earlier (Nat.lt_trans earlier valid))

theorem IsLineage.eq_lineage (ordered : tree.Ordered) (isLineage : tree.IsLineage id line) :
    line = tree.lineage id := by
  induction isLineage with
  | top _ parentless => rw [lineage, ancestors, parentless]
  | inside parent _ ih => rw [lineage, ordered.ancestors_eq parent, ih]

theorem IsLineage.le_of_mem (ordered : tree.Ordered) (isLineage : tree.IsLineage id line) :
    ∀ s ∈ line, s ≤ id := by
  induction isLineage with
  | top => simp only [List.mem_singleton, forall_eq, Nat.le_refl]
  | inside parent _ ih =>
    intro s member
    rcases List.mem_cons.mp member with rfl | above
    · exact Nat.le_refl s
    · exact Nat.le_of_lt (Nat.lt_of_le_of_lt (ih s above) (ordered.parent_lt parent))

theorem IsLineage.pairwise_gt (ordered : tree.Ordered) (isLineage : tree.IsLineage id line) :
    line.Pairwise (· > ·) := by
  induction isLineage with
  | top => exact List.pairwise_singleton _ _
  | inside parent rest ih =>
    refine List.pairwise_cons.mpr ⟨fun s above => ?_, ih⟩
    exact Nat.lt_of_le_of_lt (rest.le_of_mem ordered s above) (ordered.parent_lt parent)

theorem IsLineage.getLast?_eq (ordered : tree.Ordered) (isLineage : tree.IsLineage id line) :
    line.getLast? = some root := by
  induction isLineage with
  | @top id valid parentless =>
    by_cases inner : id = root
    · rw [inner, List.getLast?_singleton]
    · obtain ⟨up, parent, -⟩ := ordered.exists_parent id inner valid
      rw [parentless] at parent
      contradiction
  | inside _ _ ih => rw [List.getLast?_cons, ih, Option.getD_some]

end Lineage

section Lookup

theorem get?_eq_or (tree : ScopeTree) (id : Nat) (name : String) :
    tree.get? id name = (tree.binding? id name).or
      ((tree.parent? id).bind fun up => if up < id then tree.get? up name else none) := by
  rw [get?, binding?, parent?]
  cases present : tree.scopes[id]? with
  | none => rfl
  | some scope =>
    simp only [Option.bind_some]
    cases KeyedList.get? name scope.vars with
    | some value => rfl
    | none => cases scope.parent <;> rfl

theorem Ordered.get?_eq_or_get? (ordered : tree.Ordered) (parent : tree.parent? id = some up)
    (name : String) : tree.get? id name = (tree.binding? id name).or (tree.get? up name) := by
  rw [get?_eq_or, parent, Option.bind_some, if_pos (ordered.parent_lt parent)]

/-- What is found is the first binding on the way up. -/
theorem IsLineage.get?_eq (ordered : tree.Ordered) (isLineage : tree.IsLineage id line)
    (name : String) : tree.get? id name = line.findSome? (tree.binding? · name) := by
  induction isLineage with
  | top _ parentless =>
    rw [get?_eq_or, parentless, Option.bind_none, Option.or_none, List.findSome?_singleton]
  | inside parent _ ih =>
    rw [ordered.get?_eq_or_get? parent, ih, List.findSome?_cons]
    cases tree.binding? _ name <;> rfl

/-- Trees that agree on the way up from a scope and on what it binds agree on what is found. -/
theorem IsLineage.get?_congr {other : ScopeTree} (ordered : tree.Ordered)
    (isLineage : tree.IsLineage id line) (ordered' : other.Ordered)
    (isLineage' : other.IsLineage id line)
    (agree : ∀ s ∈ line, other.binding? s name = tree.binding? s name) :
    other.get? id name = tree.get? id name := by
  rw [isLineage.get?_eq ordered, isLineage'.get?_eq ordered']
  clear isLineage isLineage'
  induction line with
  | nil => rfl
  | cons s rest ih =>
    rw [List.findSome?_cons, List.findSome?_cons, agree s List.mem_cons_self,
      ih fun above member => agree above (List.mem_cons_of_mem s member)]

theorem get?_eq_none_of_foreign (foreign : tree.size ≤ id) (name : String) :
    tree.get? id name = none := by
  rw [get?_eq_or, binding?_eq_none_of_foreign foreign, parent?_eq_none_of_foreign foreign]
  rfl

/-- A name is undefined where no scope on the way up binds it, and in a foreign scope. -/
theorem Ordered.isDefined_eq_false_iff (ordered : tree.Ordered) (id : Nat) (name : String) :
    tree.isDefined id name = false ↔
      ∀ line, tree.IsLineage id line → ∀ s ∈ line, tree.binding? s name = none := by
  rw [isDefined, Option.isSome_eq_false_iff, Option.isNone_iff_eq_none]
  constructor
  · intro absent line isLineage
    rw [isLineage.get?_eq ordered, List.findSome?_eq_none_iff] at absent
    exact absent
  · intro unbound
    rcases Nat.lt_or_ge id tree.size with valid | foreign
    · have isLineage := ordered.isLineage valid
      rw [isLineage.get?_eq ordered, List.findSome?_eq_none_iff]
      exact unbound _ isLineage
    · exact get?_eq_none_of_foreign foreign name

theorem Ordered.search_get? (ordered : tree.Ordered) (id : Nat) (name : String) :
    tree.Search name (some id) (tree.get? id name) := by
  induction id using Nat.strongRecOn with
  | _ id ih =>
    cases present : tree.scopes[id]? with
    | none =>
      rw [get?, present]
      exact .foreign present
    | some scope =>
      have own : tree.binding? id name = KeyedList.get? name scope.vars := by
        rw [binding?, present, Option.bind_some]
      have parent : tree.parent? id = scope.parent := by
        rw [parent?, present, Option.bind_some]
      cases bound : KeyedList.get? name scope.vars with
      | some value =>
        rw [get?_eq_or, own, bound, Option.some_or]
        exact .found present bound
      | none =>
        refine .onward present bound ?_
        rw [get?_eq_or, own, bound, Option.none_or, parent]
        cases above : scope.parent with
        | none => exact .pastRoot
        | some up =>
          have earlier := ordered.parent_lt (parent.trans above)
          rw [Option.bind_some, if_pos earlier]
          exact ih up earlier

/-- Where parents lead from scope to scope for ever and none of these binds a name, the search for
the name has no answer. -/
theorem Search.false_of_circle {circle : Nat → Prop}
    (closed : ∀ s, circle s →
      tree.binding? s name = none ∧ ∃ up, tree.parent? s = some up ∧ circle up)
    {place : Option Nat} {answer : Option Value} (search : tree.Search name place answer) :
    ∀ s, place = some s → ¬ circle s := by
  induction search with
  | pastRoot => exact nofun
  | @foreign id absent =>
    rintro _ ⟨⟩ within
    obtain ⟨-, up, parent, -⟩ := closed id within
    rw [parent?, absent] at parent
    contradiction
  | @found id scope value present bound =>
    rintro _ ⟨⟩ within
    obtain ⟨unbound, -⟩ := closed id within
    rw [binding?, present, Option.bind_some, bound] at unbound
    contradiction
  | @onward id scope answer present _ _ ih =>
    rintro _ ⟨⟩ within
    obtain ⟨-, up, parent, above⟩ := closed id within
    rw [parent?, present, Option.bind_some] at parent
    exact ih up parent above

theorem Search.unique {place : Option Nat} {answer other : Option Value}
    (search : tree.Search name place answer) (again : tree.Search name place other) :
    answer = other := by
  induction search with
  | pastRoot => cases again; rfl
  | foreign absent =>
    cases again with
    | foreign => rfl
    | found present => rw [absent] at present; contradiction
    | onward present => rw [absent] at present; contradiction
  | found present bound =>
    cases again with
    | foreign absent => rw [absent] at present; contradiction
    | found present' bound' =>
      rw [present, Option.some_inj] at present'
      rw [← bound, ← bound', present']
    | onward present' unbound =>
      rw [present, Option.some_inj] at present'
      rw [← present', bound] at unbound
      contradiction
  | onward present unbound _ ih =>
    cases again with
    | foreign absent => rw [absent] at present; contradiction
    | found present' bound =>
      rw [present, Option.some_inj] at present'
      rw [← present', unbound] at bound
      contradiction
    | onward present' _ rest =>
      rw [present, Option.some_inj] at present'
      exact ih (present' ▸ rest)

end Lookup

/-- The root has no parent and every other scope an earlier one, so the way up from any scope
descends to the root. The search for a name ends from every scope and from every id that is none;
what it gives is the binding of the first scope on the way up that binds the name, and nothing just
where no scope on the way binds it or there is no way because the id is foreign. -/
theorem Reachable.get?_nearest (reachable : tree.Reachable) :
    tree.parent? root = none ∧
      (∀ id, id ≠ root → id < tree.size → ∃ up, tree.parent? id = some up ∧ up < id) ∧
      (∀ id, id < tree.size →
        tree.IsLineage id (tree.lineage id) ∧ (tree.lineage id).Pairwise (· > ·) ∧
          (tree.lineage id).getLast? = some root) ∧
      ∀ id name,
        (∀ answer, tree.Search name (some id) answer ↔ answer = tree.get? id name) ∧
          (∀ value, tree.get? id name = some value ↔
            id < tree.size ∧ ∃ before nearest after,
              tree.lineage id = before ++ nearest :: after ∧
                tree.binding? nearest name = some value ∧
                ∀ s ∈ before, tree.binding? s name = none) ∧
          (tree.get? id name = none ↔
            tree.size ≤ id ∨ ∀ s ∈ tree.lineage id, tree.binding? s name = none) := by
  have ordered := reachable.ordered
  refine ⟨ordered.parent?_root, ordered.exists_parent, fun id valid => ?_, fun id name => ?_⟩
  · have isLineage := ordered.isLineage valid
    exact ⟨isLineage, isLineage.pairwise_gt ordered, isLineage.getLast?_eq ordered⟩
  · refine ⟨fun answer => ⟨fun search => ?_, ?_⟩, fun value => ?_, ?_⟩
    · exact search.unique (ordered.search_get? id name)
    · rintro rfl
      exact ordered.search_get? id name
    · rcases Nat.lt_or_ge id tree.size with valid | foreign
      · rw [(ordered.isLineage valid).get?_eq ordered, List.findSome?_eq_some_iff]
        simp only [valid, true_and]
      · simp only [get?_eq_none_of_foreign foreign, reduceCtorEq, Nat.not_lt.mpr foreign,
          false_and]
    · rcases Nat.lt_or_ge id tree.size with valid | foreign
      · rw [(ordered.isLineage valid).get?_eq ordered, List.findSome?_eq_none_iff]
        simp only [Nat.not_le.mpr valid, false_or]
      · simp only [get?_eq_none_of_foreign foreign, foreign, true_or]

/-- Three scopes one inside the other. The port of the outermost is hidden by that of the middle
one, and three of the calls fail: two name a scope that is not there, one binds a name again. -/
def host : ScopeTree := new.performAll [.define 0 "port" (.integer 22), .child 0, .child 1,
  .define 1 "port" (.integer 80), .child 9, .define 1 "port" (.integer 81), .define 7 "os" .undef,
  .define 2 "os" (.string "linux")]

theorem get?_nearest_host :
    host.Reachable ∧ host.IsLineage 2 [2, 1, 0] ∧
      host.Search "port" (some 2) (some (.integer 80)) ∧
      host.get? 2 "port" = some (.integer 80) ∧ host.get? 0 "os" = none ∧
      host.get? 7 "port" = none := by
  have reachable : host.Reachable := Reachable.new.performAll _
  obtain ⟨-, -, lineages, lookups⟩ := reachable.get?_nearest
  have line : host.lineage 2 = [2, 1, 0] := by decide +kernel
  have port : host.get? 2 "port" = some (.integer 80) :=
    ((lookups 2 "port").2.1 _).mpr ⟨by decide +kernel, [2], 1, [0], line, rfl, by
      simp only [List.mem_singleton, forall_eq]
      rfl⟩
  have hidden : host.get? 0 "os" = none := (lookups 0 "os").2.2.mpr <| .inr <| by
    rw [show host.lineage 0 = [0] by decide +kernel]
    simp only [List.mem_singleton, forall_eq]
    rfl
  have isLineage := (lineages 2 (by decide +kernel)).1
  rw [line] at isLineage
  exact ⟨reachable, isLineage, ((lookups 2 "port").1 _).mpr port.symm, port, hidden,
    (lookups 7 "port").2.2.mpr (.inl (by decide +kernel))⟩

end Provision.ScopeTree

import Mathlib.Data.List.Basic
import Provision.Proofs.Expr.Demand
import Provision.Proofs.Expr.Walk
import Provision.Proofs.Scope.Lineage

/-!
The way through a tree is the one in pre-order. It takes every place once, a place before those
below it and before those to its right, and finds the nodes that a recursion over the constructors
finds. Hence the names of the variables are known by the places where they stand, and those that are
unresolved by the scopes on the way up.
-/

namespace Provision.Expr

mutual

/-- The nodes of a tree in pre-order, constructor by constructor. -/
def nodes : Expr → List Expr
  | .literal value => [.literal value]
  | .var name => [.var name]
  | .unary op operand => .unary op operand :: operand.nodes
  | .binary op left right => .binary op left right :: (left.nodes ++ right.nodes)
  | .branch kind children => .branch kind children :: nodesOfAll children

/-- The nodes of several trees, one tree after the other. -/
def nodesOfAll : List Expr → List Expr
  | [] => []
  | e :: rest => e.nodes ++ nodesOfAll rest

end

mutual

theorem walk_eq_nodes (e : Expr) : e.walk = e.nodes := by
  rw [walk_eq]
  cases e with
  | literal value => rfl
  | var name => rfl
  | unary op operand => rw [children, List.flatMap_singleton, walk_eq_nodes operand, nodes]
  | binary op left right =>
    rw [children, List.flatMap_cons, List.flatMap_singleton, walk_eq_nodes left,
      walk_eq_nodes right, nodes]
  | branch kind cs => rw [children, flatMap_walk_eq_nodesOfAll cs, nodes]

theorem flatMap_walk_eq_nodesOfAll (es : List Expr) : es.flatMap walk = nodesOfAll es := by
  cases es with
  | nil => rfl
  | cons e rest =>
    rw [List.flatMap_cons, walk_eq_nodes e, flatMap_walk_eq_nodesOfAll rest, nodesOfAll]

end

section Places

/-- A place comes before those below it and before those to its right. -/
def Before (p q : Place) : Prop := p <+: q ∧ p ≠ q ∨ LeftOf p q

theorem not_leftOf_self (p : Place) : ¬ LeftOf p p := by
  induction p with
  | nil => exact id
  | cons i p ih => simpa [LeftOf] using ih

theorem Before.ne {p q : Place} (before : Before p q) : p ≠ q := by
  rintro rfl
  exact before.elim (fun below => below.2 rfl) (not_leftOf_self p)

theorem before_cons_iff (i : Nat) (p q : Place) : Before (i :: p) (i :: q) ↔ Before p q := by
  simp [Before, LeftOf]

theorem nil_before_cons (i : Nat) (p : Place) : Before [] (i :: p) :=
  .inl ⟨List.nil_prefix, (List.cons_ne_nil i p).symm⟩

theorem before_of_lt {i j : Nat} (left : i < j) (p q : Place) : Before (i :: p) (j :: q) :=
  .inr (.inl left)

theorem at?_cons_eq_some_iff {e node : Expr} {i : Nat} {p : Place} :
    e.at? (i :: p) = some node ↔ ∃ c, e.children[i]? = some c ∧ c.at? p = some node := by
  rw [at?, Option.bind_eq_some_iff]

/-- The children of a node with their numbers. -/
def numbered (e : Expr) : List (Expr × Nat) := e.children.zipIdx

theorem mem_numbered_iff {e c : Expr} {i : Nat} :
    (c, i) ∈ e.numbered ↔ e.children[i]? = some c :=
  List.mem_zipIdx_iff_getElem?

theorem mem_children_of_mem_numbered {e : Expr} {child : Expr × Nat}
    (member : child ∈ e.numbered) : child.1 ∈ e.children :=
  List.mem_of_getElem? (mem_numbered_iff.mp member)

theorem numbered_pairwise (e : Expr) : e.numbered.Pairwise (·.2 < ·.2) := by
  have ascending : (e.numbered.map (·.2)).Pairwise (· < ·) := by
    rw [numbered, List.zipIdx_map_snd]
    exact List.pairwise_lt_range'
  exact List.pairwise_map.mp ascending

/-- The places of all nodes, that of a node before those of its children. -/
def places (e : Expr) : List Place :=
  [] :: e.numbered.attach.flatMap fun child => child.val.1.places.map (child.val.2 :: ·)
termination_by sizeOf e
decreasing_by exact sizeOf_lt_of_mem_children (mem_children_of_mem_numbered child.property)

theorem places_eq (e : Expr) :
    e.places = [] :: e.numbered.flatMap fun child => child.1.places.map (child.2 :: ·) := by
  rw [places, List.flatMap_subtype (g := fun child => child.1.places.map (child.2 :: ·))
    fun _ _ => rfl, List.unattach_attach]

theorem mem_places_iff (e : Expr) (p : Place) : p ∈ e.places ↔ (e.at? p).isSome := by
  induction e using children_induction generalizing p with
  | step e ih =>
    rw [places_eq, List.mem_cons, List.mem_flatMap]
    cases p with
    | nil => simp [at?]
    | cons i p =>
      rw [Option.isSome_iff_exists]
      simp only [at?_cons_eq_some_iff, List.mem_map]
      constructor
      · rintro (same | ⟨⟨c, j⟩, member, q, inside, same⟩)
        · cases same
        · cases same
          obtain ⟨node, found⟩ := Option.isSome_iff_exists.mp
            ((ih c (mem_children_of_mem_numbered member) p).mp inside)
          exact ⟨node, c, mem_numbered_iff.mp member, found⟩
      · rintro ⟨node, c, child, found⟩
        have member := mem_numbered_iff.mpr child
        have inside := (ih c (mem_children_of_mem_numbered member) p).mpr
          (Option.isSome_iff_exists.mpr ⟨node, found⟩)
        exact .inr ⟨(c, i), member, p, inside, rfl⟩

theorem places_pairwise (e : Expr) : e.places.Pairwise Before := by
  induction e using children_induction with
  | step e ih =>
    rw [places_eq, List.pairwise_cons]
    constructor
    · intro q inside
      obtain ⟨child, -, inside⟩ := List.mem_flatMap.mp inside
      obtain ⟨p, -, rfl⟩ := List.mem_map.mp inside
      exact nil_before_cons child.2 p
    · refine List.pairwise_flatMap.mpr ⟨fun child member => ?_, ?_⟩
      · refine List.pairwise_map.mpr ?_
        exact (ih child.1 (mem_children_of_mem_numbered member)).imp fun {p q} before =>
          (before_cons_iff child.2 p q).mpr before
      · -- The numbers of two children decide between all places below them.
        refine e.numbered_pairwise.imp fun {child other} left => ?_
        intro p inChild q inOther
        obtain ⟨p, -, rfl⟩ := List.mem_map.mp inChild
        obtain ⟨q, -, rfl⟩ := List.mem_map.mp inOther
        exact before_of_lt left p q

/-- What stands at the places is what the way through the tree finds. -/
theorem map_at?_places (e : Expr) : e.places.map e.at? = e.walk.map some := by
  induction e using children_induction with
  | step e ih =>
    -- The number of a child leads back to it, so below it the tree looks as the child does.
    have below : ∀ child ∈ e.numbered,
        (child.1.places.map (child.2 :: ·)).map e.at? = child.1.walk.map some := by
      intro child member
      rw [List.map_map, ← ih child.1 (mem_children_of_mem_numbered member)]
      refine List.map_congr_left fun p _ => ?_
      rw [Function.comp_apply, at?, mem_numbered_iff.mp member, Option.bind_some]
    have unnumbered : e.numbered.map (·.1) = e.children := by
      rw [numbered, List.zipIdx_map_fst]
    rw [places_eq, walk_eq, List.map_cons, List.map_cons, at?, List.map_flatMap, List.map_flatMap,
      List.flatMap_congr below, ← unnumbered, List.flatMap_map]

theorem mem_walk_iff (e node : Expr) : node ∈ e.walk ↔ ∃ p, e.at? p = some node := by
  have found : some node ∈ e.places.map e.at? ↔ node ∈ e.walk := by
    rw [map_at?_places, List.mem_map]
    simp only [Option.some_inj, exists_eq_right]
  rw [← found, List.mem_map]
  constructor
  · rintro ⟨p, -, stands⟩
    exact ⟨p, stands⟩
  · rintro ⟨p, stands⟩
    exact ⟨p, (e.mem_places_iff p).mpr (Option.isSome_iff_exists.mpr ⟨node, stands⟩), stands⟩

end Places

section Names

theorem varNames_pairwise (e : Expr) : e.varNames.Pairwise (· < ·) :=
  List.pairwise_map.mpr (KeyedList.ofPairs_ascending _)

/-- The variables that are unresolved in a scope are those that no scope on the way up binds. -/
theorem mem_unresolvedIn_iff {tree : ScopeTree} (ordered : tree.Ordered) (e : Expr) (id : Nat)
    (name : String) :
    name ∈ e.unresolvedIn tree id ↔ name ∈ e.varNames ∧
      ∀ line, tree.IsLineage id line → ∀ s ∈ line, tree.binding? s name = none := by
  rw [unresolvedIn, unresolved, List.mem_filter, Bool.not_eq_true', ordered.isDefined_eq_false_iff]

end Names

/-- The way through a tree finds the nodes in the order of a recursion over the constructors. There
is one place for each step of it, every place of the tree occurs once, and a place comes before
those below it and those to its right. The names of a tree are ascending without repetition and
those of the variables at any of its places, and what is unresolved of them, in the same order, are
those that no scope on the way up binds; `undef` is a value like others to bind a name to. -/
theorem walk_in_preorder (e : Expr) :
    e.walk = e.nodes ∧
      (∃ places : List Place, places.Pairwise Before ∧ places.Nodup ∧
        (∀ p, p ∈ places ↔ (e.at? p).isSome) ∧ places.map e.at? = e.walk.map some) ∧
      (e.varNames.Pairwise (· < ·) ∧
        ∀ name, name ∈ e.varNames ↔ ∃ p, e.at? p = some (.var name)) ∧
      ∀ {tree : ScopeTree}, tree.Reachable → ∀ id,
        (e.unresolvedIn tree id).Sublist e.varNames ∧
          ∀ name, name ∈ e.unresolvedIn tree id ↔ name ∈ e.varNames ∧
            ∀ line, tree.IsLineage id line → ∀ s ∈ line, tree.binding? s name = none := by
  refine ⟨e.walk_eq_nodes, ⟨e.places, e.places_pairwise, e.places_pairwise.imp Before.ne,
    e.mem_places_iff, e.map_at?_places⟩, ⟨e.varNames_pairwise, fun name => ?_⟩, ?_⟩
  · rw [mem_varNames_iff, mem_walk_iff]
  · intro tree reachable id
    exact ⟨List.filter_sublist, mem_unresolvedIn_iff reachable.ordered e id⟩

/-- A sum of two variables, and a list of two of which one is in the sum as well. -/
def inventory : Expr :=
  .branch .sequence [.binary (.arithmetic .plus) (.var "port") (.unary .minus (.var "os")),
    .branch .list [.var "mount", .var "port"]]

theorem walk_in_preorder_inventory :
    let tree := ScopeTree.host.performAll [.define 1 "mount" .undef]
    tree.Reachable ∧ inventory.nodes.length = 8 ∧ inventory.walk = inventory.nodes ∧
      "os" ∈ inventory.unresolvedIn tree 1 ∧ tree.binding? 1 "mount" = some .undef ∧
        "mount" ∈ inventory.varNames ∧ "mount" ∉ inventory.unresolvedIn tree 1 := by
  intro tree
  have reachable : tree.Reachable := (ScopeTree.Reachable.new.performAll _).performAll _
  obtain ⟨nodes, -, ⟨-, names⟩, unresolved⟩ := inventory.walk_in_preorder
  obtain ⟨-, unresolved⟩ := unresolved reachable 1
  have upward : tree.lineage 1 = [1, 0] := by decide +kernel
  have isLineage : tree.IsLineage 1 [1, 0] :=
    upward ▸ reachable.ordered.isLineage (by decide +kernel)
  refine ⟨reachable, rfl, nodes, (unresolved "os").mpr ⟨?_, ?_⟩, rfl, ?_, ?_⟩
  · exact (names "os").mpr ⟨[0, 1, 0], rfl⟩
  · intro line isLineage'
    rw [isLineage'.eq_lineage reachable.ordered, upward]
    simp only [List.forall_mem_cons]
    exact ⟨rfl, rfl, nofun⟩
  · exact (names "mount").mpr ⟨[1, 0], rfl⟩
  · intro member
    have unbound := ((unresolved "mount").mp member).2 _ isLineage 1 List.mem_cons_self
    cases unbound

end Provision.Expr

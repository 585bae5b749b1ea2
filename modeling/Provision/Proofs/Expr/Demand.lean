import Provision.Expr.Evaluate

/-!
Which nodes of a tree an evaluation demands, and in which order. A node is known by its place. The
operands come before their operator and the left before the right. The right operand of `and` is
left out where the left one is falsy, and that of `or` where it is truthy.
-/

namespace Provision.BinaryOp

/-- The value of the left operand settles the operator whatever the right one is: a falsy value does
so for `and`, a truthy one for `or`, and none does for any other operator. -/
def settledBy (op : BinaryOp) (left : Value) : Bool :=
  match op with
  | .logical .and => !left.isTruthy
  | .logical .or => left.isTruthy
  | _ => false

/-- A connective is settled when its truth is the same for every right operand. -/
theorem settledBy_logical_iff (c : Connective) (left : Value) :
    (logical c).settledBy left = true ↔
      ∀ right right', c.holds left.isTruthy right = c.holds left.isTruthy right' := by
  cases c with
  | and => cases truth : left.isTruthy <;> simp [settledBy, truth, Connective.holds]
  | or => cases truth : left.isTruthy <;> simp [settledBy, truth, Connective.holds]

/-- An evaluation stops at the left operand just when it settles the operator. -/
theorem decides_eq_settledBy (op : BinaryOp) (left : Value) :
    Value.decides op left = op.settledBy left := by
  cases op with
  | logical c =>
    cases c with
    | and => simp [Value.decides, Connective.decidedBy, settledBy]
    | or => simp [Value.decides, Connective.decidedBy, settledBy]
  | _ => rfl

/-- Only `and` and `or` are settled by their left operand. -/
theorem eq_logical_of_settledBy {op : BinaryOp} {left : Value}
    (settled : op.settledBy left = true) : ∃ c, op = .logical c := by
  cases op with
  | logical c => exact ⟨c, rfl⟩
  | _ => cases settled

end Provision.BinaryOp

namespace Provision.Expr

/-- The way from the root to a node: the number of the child to go to, step by step. -/
abbrev Place := List Nat

/-- The place among the children of a node that lies one child further to the right. -/
def Place.next : Place → Place
  | [] => []
  | i :: p => (i + 1) :: p

def at? : Expr → Place → Option Expr
  | e, [] => some e
  | e, i :: p => e.children[i]?.bind (at? · p)

/-- Where the two ways part, the first goes to a child further to the left. -/
def LeftOf : Place → Place → Prop
  | i :: p, j :: q => i < j ∨ i = j ∧ LeftOf p q
  | _, _ => False

/-- A place comes before another one that lies to its right or above it. -/
def Earlier (p q : Place) : Prop := LeftOf p q ∨ q <+: p ∧ q ≠ p

section Demand

variable (lookup : String → Value)

/-- The left operand has a value, and this value settles the operator. -/
def settles (op : BinaryOp) (left : Expr) : Bool :=
  match left.evaluate lookup with
  | .ok a => op.settledBy a
  | .error _ => false

mutual

/-- The places of the nodes that an evaluation demands, in the order in which it does. -/
def demanded : Expr → List Place
  | .literal _ => [[]]
  | .var _ => [[]]
  | .unary _ operand => (demanded operand).map (0 :: ·) ++ [[]]
  | .binary op left right =>
    (demanded left).map (0 :: ·) ++
      (if settles lookup op left then [] else (demanded right).map (1 :: ·)) ++ [[]]
  | .branch _ children => demandedAmong children ++ [[]]

/-- The places demanded in several trees one after the other, from child to child. -/
def demandedAmong : List Expr → List Place
  | [] => []
  | e :: rest => (demanded e).map (0 :: ·) ++ (demandedAmong rest).map Place.next

end

/-- The second place is demanded later than the first one. -/
def DemandedAfter (e : Expr) (p q : Place) : Prop :=
  ∃ before after, e.demanded lookup = before ++ p :: after ∧ q ∈ after

end Demand

section Order

variable {lookup : String → Value}

theorem nil_mem_demanded (e : Expr) : [] ∈ e.demanded lookup := by
  cases e <;> simp [demanded]

theorem nil_not_mem_demandedAmong (es : List Expr) : [] ∉ demandedAmong lookup es := by
  induction es with
  | nil => simp [demandedAmong]
  | cons e rest ih =>
    simp only [demandedAmong, List.mem_append, List.mem_map, not_or, not_exists, not_and]
    refine ⟨fun p _ => List.cons_ne_nil 0 p, fun p member same => ?_⟩
    cases p with
    | nil => exact ih member
    | cons i p => cases same

theorem next_eq_cons_iff (q : Place) (i : Nat) (p : Place) :
    q.next = i :: p ↔ ∃ j, j + 1 = i ∧ j :: p = q := by
  cases q with
  | nil => simp [Place.next]
  | cons j q =>
    constructor
    · intro same
      cases same
      exact ⟨j, rfl, rfl⟩
    · rintro ⟨k, rfl, same⟩
      cases same
      rfl

theorem mem_demandedAmong_iff (es : List Expr) (i : Nat) (p : Place) :
    i :: p ∈ demandedAmong lookup es ↔ ∃ c, es[i]? = some c ∧ p ∈ c.demanded lookup := by
  induction es generalizing i with
  | nil => simp [demandedAmong]
  | cons e rest ih =>
    cases i with
    | zero => simp [demandedAmong, next_eq_cons_iff]
    | succ i => simp [demandedAmong, next_eq_cons_iff, ih]

theorem cons_mem_map_cons_iff (i j : Nat) (p : Place) (places : List Place) :
    i :: p ∈ places.map (j :: ·) ↔ i = j ∧ p ∈ places := by
  simp only [List.mem_map, List.cons.injEq]
  constructor
  · rintro ⟨q, inside, rfl, rfl⟩
    exact ⟨rfl, inside⟩
  · rintro ⟨rfl, inside⟩
    exact ⟨p, inside, rfl, rfl⟩

theorem mem_demanded_unary_iff (op : UnaryOp) (operand : Expr) (i : Nat) (p : Place) :
    i :: p ∈ (unary op operand).demanded lookup ↔ i = 0 ∧ p ∈ operand.demanded lookup := by
  simp [demanded, cons_mem_map_cons_iff]

theorem mem_demanded_binary_iff (op : BinaryOp) (left right : Expr) (i : Nat) (p : Place) :
    i :: p ∈ (binary op left right).demanded lookup ↔ i = 0 ∧ p ∈ left.demanded lookup ∨
      i = 1 ∧ settles lookup op left = false ∧ p ∈ right.demanded lookup := by
  cases settled : settles lookup op left <;> simp [demanded, settled, cons_mem_map_cons_iff]

theorem mem_demanded_branch_iff (kind : BranchKind) (cs : List Expr) (i : Nat) (p : Place) :
    i :: p ∈ (branch kind cs).demanded lookup ↔ ∃ c, cs[i]? = some c ∧ p ∈ c.demanded lookup := by
  rw [demanded, List.mem_append, mem_demandedAmong_iff]
  simp

theorem earlier_next_iff (p q : Place) : Earlier p.next q.next ↔ Earlier p q := by
  cases p <;> cases q <;> simp [Earlier, Place.next, LeftOf]

theorem earlier_cons_iff (i : Nat) (p q : Place) : Earlier (i :: p) (i :: q) ↔ Earlier p q := by
  simp [Earlier, LeftOf]

theorem earlier_of_lt {i j : Nat} (before : i < j) (p q : Place) : Earlier (i :: p) (j :: q) :=
  .inl (.inl before)

theorem earlier_nil {p : Place} (below : p ≠ []) : Earlier p [] :=
  .inr ⟨List.nil_prefix, below.symm⟩

theorem pairwise_earlier_below (i : Nat) {places : List Place} (ordered : places.Pairwise Earlier) :
    (places.map (i :: ·)).Pairwise Earlier :=
  List.pairwise_map.mpr (ordered.imp fun {p q} before => (earlier_cons_iff i p q).mpr before)

theorem pairwise_earlier_on_top {places : List Place} (below : [] ∉ places)
    (ordered : places.Pairwise Earlier) : (places ++ [[]]).Pairwise Earlier := by
  refine List.pairwise_append.mpr ⟨ordered, List.pairwise_singleton _ _, ?_⟩
  intro p member top isTop
  rw [List.mem_singleton.mp isTop]
  exact earlier_nil fun same => below (same ▸ member)

mutual

/-- Each place is demanded once, after the places below it and after all that lies to its left. -/
theorem demanded_pairwise (e : Expr) : (e.demanded lookup).Pairwise Earlier := by
  cases e with
  | literal value => exact List.pairwise_singleton _ _
  | var name => exact List.pairwise_singleton _ _
  | unary op operand =>
    rw [demanded]
    exact pairwise_earlier_on_top (by simp)
      (pairwise_earlier_below 0 (demanded_pairwise operand))
  | binary op left right =>
    rw [demanded]
    have inLeft := pairwise_earlier_below 0 (demanded_pairwise left)
    have inRight := pairwise_earlier_below 1 (demanded_pairwise right)
    split
    · exact pairwise_earlier_on_top (by simp) (by simpa using inLeft)
    · refine pairwise_earlier_on_top (by simp) (List.pairwise_append.mpr ⟨inLeft, inRight, ?_⟩)
      intro p memberLeft q memberRight
      obtain ⟨p, -, rfl⟩ := List.mem_map.mp memberLeft
      obtain ⟨q, -, rfl⟩ := List.mem_map.mp memberRight
      exact earlier_of_lt Nat.zero_lt_one p q
  | branch kind cs =>
    rw [demanded]
    exact pairwise_earlier_on_top (nil_not_mem_demandedAmong cs) (demandedAmong_pairwise cs)

theorem demandedAmong_pairwise (es : List Expr) : (demandedAmong lookup es).Pairwise Earlier := by
  cases es with
  | nil => exact List.Pairwise.nil
  | cons e rest =>
    rw [demandedAmong]
    have first := pairwise_earlier_below 0 (demanded_pairwise e)
    have others : ((demandedAmong lookup rest).map Place.next).Pairwise Earlier :=
      List.pairwise_map.mpr ((demandedAmong_pairwise rest).imp fun {p q} before =>
        (earlier_next_iff p q).mpr before)
    refine List.pairwise_append.mpr ⟨first, others, ?_⟩
    intro p memberFirst q memberOthers
    obtain ⟨p, -, rfl⟩ := List.mem_map.mp memberFirst
    obtain ⟨q, inside, rfl⟩ := List.mem_map.mp memberOthers
    cases q with
    | nil => exact absurd inside (nil_not_mem_demandedAmong rest)
    | cons j q => exact earlier_of_lt (Nat.succ_pos j) p q

end

end Order

end Provision.Expr

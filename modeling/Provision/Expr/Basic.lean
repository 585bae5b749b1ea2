import Provision.Operator
import Provision.Value.Basic

/-!
Expression trees, their text, and the way through one: from a node to its immediate children, and so
to all nodes of a tree in pre-order.
-/

namespace Provision

/-- What a branch makes of its children: the value of the last, or all values in order. -/
inductive BranchKind where
  | sequence
  | list
  deriving Repr, DecidableEq

def BranchKind.all : List BranchKind := [.sequence, .list]

def BranchKind.name : BranchKind → String
  | .sequence => "sequence"
  | .list => "list"

inductive Expr where
  | literal (value : Value)
  | var (name : String)
  | unary (op : UnaryOp) (operand : Expr)
  | binary (op : BinaryOp) (left right : Expr)
  | branch (kind : BranchKind) (children : List Expr)
  deriving Inhabited

namespace Expr

/-- Immediate children, from left to right. -/
def children : Expr → List Expr
  | .literal _ => []
  | .var _ => []
  | .unary _ operand => [operand]
  | .binary _ left right => [left, right]
  | .branch _ children => children

theorem sizeOf_lt_of_mem_children {c e : Expr} (h : c ∈ e.children) : sizeOf c < sizeOf e := by
  cases e with
  | literal value => simp [children] at h
  | var name => simp [children] at h
  | unary op operand =>
    simp only [children, List.mem_singleton] at h
    subst h
    simp only [unary.sizeOf_spec]
    omega
  | binary op left right =>
    simp only [children, List.mem_cons, List.not_mem_nil, or_false] at h
    rcases h with rfl | rfl <;> simp only [binary.sizeOf_spec] <;> omega
  | branch kind cs =>
    have := List.sizeOf_lt_of_mem h
    simp only [children] at this
    simp only [branch.sizeOf_spec]
    omega

/-- What holds of a tree as soon as it holds of its children holds of all trees. -/
@[elab_as_elim]
theorem children_induction {motive : Expr → Prop}
    (step : ∀ e : Expr, (∀ c ∈ e.children, motive c) → motive e) (e : Expr) : motive e :=
  step e fun c _ => children_induction step c
termination_by sizeOf e
decreasing_by exact sizeOf_lt_of_mem_children ‹_›

/-- The children of a node that are still to come: slots for one child each, any of which may be
empty, and a list behind them. -/
structure Siblings where
  slots : List (Option Expr)
  rest : List Expr

namespace Siblings

/-- The child in the first slot that is not empty, else the first one of the list, and what is to
come after it. -/
def nextFrom (rest : List Expr) : List (Option Expr) → Option (Expr × Siblings)
  | some c :: slots => some (c, ⟨slots, rest⟩)
  | none :: slots => nextFrom rest slots
  | [] =>
    match rest with
    | [] => none
    | c :: rest => some (c, ⟨[], rest⟩)

def next? (s : Siblings) : Option (Expr × Siblings) := nextFrom s.rest s.slots

/-- What stands in the slots and in the list. -/
def pending (s : Siblings) : List Expr := s.slots.filterMap id ++ s.rest

theorem pending_of_next?_eq_none {s : Siblings} (ended : s.next? = none) : s.pending = [] := by
  obtain ⟨slots, rest⟩ := s
  simp only [next?] at ended
  induction slots with
  | nil =>
    cases rest with
    | nil => rfl
    | cons c rest => cases ended
  | cons slot slots ih =>
    cases slot with
    | none => exact ih ended
    | some c => cases ended

/-- The next child is the first one pending, and the others are pending after it. -/
theorem pending_of_next?_eq_some {s after : Siblings} {c : Expr}
    (next : s.next? = some (c, after)) : s.pending = c :: after.pending := by
  obtain ⟨slots, rest⟩ := s
  simp only [next?] at next
  -- Empty slots are passed over, so the induction is on the slots.
  induction slots with
  | nil =>
    cases rest with
    | nil => cases next
    | cons d rest => cases next; rfl
  | cons slot slots ih =>
    cases slot with
    | none => exact ih next
    | some d => cases next; rfl

theorem length_pending_lt {s after : Siblings} {c : Expr} (next : s.next? = some (c, after)) :
    after.pending.length < s.pending.length := by
  rw [pending_of_next?_eq_some next, List.length_cons]
  exact Nat.lt_succ_self _

/-- Goes from child to child to the last one. -/
def toList (s : Siblings) : List Expr :=
  match _next : s.next? with
  | none => []
  | some (c, after) => c :: after.toList
termination_by s.pending.length
decreasing_by exact length_pending_lt _next

theorem toList_eq_pending (s : Siblings) : s.toList = s.pending := by
  fun_induction toList s with
  | case1 s ended => exact (pending_of_next?_eq_none ended).symm
  | case2 s c after next ih => rw [ih, pending_of_next?_eq_some next]

end Siblings

/-- The children of a node before the first one is taken. Operands have a slot each. -/
def each : Expr → Siblings
  | .literal _ => ⟨[none, none], []⟩
  | .var _ => ⟨[none, none], []⟩
  | .unary _ operand => ⟨[some operand, none], []⟩
  | .binary _ left right => ⟨[some left, some right], []⟩
  | .branch _ children => ⟨[none, none], children⟩

/-- Taken one after the other, the children come from left to right. -/
theorem toList_each (e : Expr) : e.each.toList = e.children := by
  rw [Siblings.toList_eq_pending]
  cases e <;> rfl

/-- The nodes of a tree in front of `after`: each node comes before its children, and the children
come from left to right. -/
def walkBefore (after : List Expr) (e : Expr) : List Expr :=
  e :: e.each.toList.attach.foldr (fun c after => walkBefore after c.val) after
termination_by sizeOf e
decreasing_by exact sizeOf_lt_of_mem_children (toList_each e ▸ c.property)

/-- Goes through a tree from child to child. -/
def walk (e : Expr) : List Expr := walkBefore [] e

theorem walkBefore_eq (after : List Expr) (e : Expr) :
    walkBefore after e = e :: e.children.foldr (fun c after => walkBefore after c) after := by
  rw [walkBefore, List.foldr_attach (f := fun c after => walkBefore after c), toList_each]

/-- What stands behind the nodes of a tree stays there. -/
theorem walkBefore_append (e : Expr) (after rest : List Expr) :
    walkBefore (after ++ rest) e = walkBefore after e ++ rest := by
  induction e using children_induction generalizing after with
  | step e ih =>
    rw [walkBefore_eq, walkBefore_eq, List.cons_append]
    congr 1
    generalize e.children = cs at ih
    induction cs with
    | nil => rfl
    | cons c cs others =>
      rw [List.foldr_cons, others fun d hd => ih d (List.mem_cons_of_mem c hd)]
      exact ih c List.mem_cons_self _

/-- A node comes before what is found in its children, one after the other. -/
theorem walk_eq (e : Expr) : e.walk = e :: e.children.flatMap walk := by
  rw [walk, walkBefore_eq]
  congr 1
  induction e.children with
  | nil => rfl
  | cons c cs ih =>
    rw [List.foldr_cons, ih, List.flatMap_cons, walk]
    exact walkBefore_append c [] _

def varName? : Expr → Option String
  | .var name => some name
  | _ => none

/-- The names of all variables in a tree, ascending and without repetition. -/
def varNames (e : Expr) : List String := KeyedList.sortedNames (e.walk.filterMap varName?)

/-- The variables that have no binding. -/
def unresolved (e : Expr) (isDefined : String → Bool) : List String :=
  e.varNames.filter fun name => !isDefined name

/-- What a node is, without its children. -/
def label : Expr → String
  | .literal _ => "literal"
  | .var _ => "variable"
  | .unary op _ => "unary " ++ op.symbol
  | .binary op _ _ => "binary " ++ op.symbol
  | .branch kind _ => kind.name

mutual

/-- Text of a tree in front of `after`. A string literal stands in single quotes, a binary node in
parentheses. -/
def textBefore (after : List Char) : Expr → List Char
  | .literal (.string s) => '\'' :: (s.toList ++ '\'' :: after)
  | .literal value => value.text.toList ++ after
  | .var name => '$' :: (name.toList ++ after)
  | .unary op operand => op.symbol.toList ++ operand.textBefore after
  | .binary op left right =>
    let tail := ' ' :: (op.symbol.toList ++ ' ' :: right.textBefore (')' :: after))
    '(' :: left.textBefore tail
  | .branch .sequence children =>
    '\x7b' :: ' ' :: textOfAllBefore [';', ' '] (' ' :: '\x7d' :: after) children
  | .branch .list children => '[' :: textOfAllBefore [',', ' '] (']' :: after) children

/-- Texts of several trees with a separator between them, in front of `after`. -/
def textOfAllBefore (separator after : List Char) : List Expr → List Char
  | [] => after
  | [e] => e.textBefore after
  | e :: rest => e.textBefore (separator ++ textOfAllBefore separator after rest)

end

/-- Text of a tree. -/
def text (e : Expr) : String := String.ofList (e.textBefore [])

end Expr

end Provision

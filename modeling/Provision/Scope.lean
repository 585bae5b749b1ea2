import Provision.EvalError

/-!
Lexical scopes in one growing arena. A scope is known by its position; all but the root have a
parent, which was there before them. A name is looked up in a scope and then in its ancestors,
and it is bound at most once in each scope.
-/

namespace Provision

structure Scope where
  parent : Option Nat
  vars : KeyedList Value

structure ScopeTree where
  scopes : List Scope

namespace ScopeTree

/-- A tree that holds only the root, which is scope 0. -/
def new : ScopeTree := ⟨[⟨none, []⟩]⟩

def root : Nat := 0

def size (tree : ScopeTree) : Nat := tree.scopes.length

def isEmpty (tree : ScopeTree) : Bool := tree.scopes.isEmpty

def parent? (tree : ScopeTree) (id : Nat) : Option Nat := tree.scopes[id]?.bind (·.parent)

/-- Opens a scope inside `parent`; the second component is the new scope. -/
def child (tree : ScopeTree) (parent : Nat) : Except EvalError (ScopeTree × Nat) :=
  match tree.scopes[parent]? with
  | none => .error (.unknownScope parent)
  | some _ => .ok (⟨tree.scopes ++ [⟨some parent, []⟩]⟩, tree.size)

/-- Binds a name in one scope. A binding of the same name in an ancestor is only hidden. -/
def define (tree : ScopeTree) (id : Nat) (name : String) (value : Value) :
    Except EvalError ScopeTree :=
  match tree.scopes[id]? with
  | none => .error (.unknownScope id)
  | some scope =>
    match KeyedList.get? name scope.vars with
    | some _ => .error (.reassignment name)
    | none =>
      let vars := KeyedList.insert name value scope.vars
      .ok ⟨tree.scopes.set id { scope with vars }⟩

/-- Binds several names in one scope, in order. -/
def defineAll (tree : ScopeTree) (id : Nat) :
    List (String × Value) → Except EvalError ScopeTree
  | [] => .ok tree
  | (name, value) :: rest =>
    match tree.define id name value with
    | .error e => .error e
    | .ok tree => tree.defineAll id rest

/-- The nearest binding of a name, from a scope upward. A parent is always an earlier scope, so the
way up ends. -/
def get? (tree : ScopeTree) (id : Nat) (name : String) : Option Value :=
  match tree.scopes[id]? with
  | none => none
  | some scope =>
    match KeyedList.get? name scope.vars with
    | some value => some value
    | none =>
      match scope.parent with
      | none => none
      | some up => if up < id then tree.get? up name else none
termination_by id

/-- The value of a name, which is `undef` where the name is not bound. -/
def lookup (tree : ScopeTree) (id : Nat) (name : String) : Value :=
  (tree.get? id name).getD .undef

def isDefined (tree : ScopeTree) (id : Nat) (name : String) : Bool := (tree.get? id name).isSome

/-- The ancestors of a scope, nearest first. -/
def ancestors (tree : ScopeTree) (id : Nat) : List Nat :=
  match tree.parent? id with
  | none => []
  | some up => if up < id then up :: tree.ancestors up else []
termination_by id

/-- Nested scopes with the given bindings, the outermost first; the second component is the
innermost scope. -/
def nested : List (List (String × Value)) → Except EvalError (ScopeTree × Nat)
  | [] => .ok (new, root)
  | first :: rest => do
    let tree ← new.defineAll root first
    rest.foldlM enter (tree, root)
where
  enter (place : ScopeTree × Nat) (vars : List (String × Value)) :
      Except EvalError (ScopeTree × Nat) := do
    let (tree, id) ← place.1.child place.2
    let tree ← tree.defineAll id vars
    return (tree, id)

/-- A call that changes a tree unless it fails. -/
inductive Call where
  | child (parent : Nat)
  | define (id : Nat) (name : String) (value : Value)

/-- A call on a tree that is kept in place, where a failure does not take back what was done before
it. The answer is the scope that was opened, if one was. -/
def Call.action : Call → ExceptT EvalError (StateM ScopeTree) (Option Nat)
  | .child parent => do
    let (tree, id) ← (← get).child parent
    set tree
    return some id
  | .define id name value => do
    let tree ← (← get).define id name value
    set tree
    return none

/-- Makes a call; the second component is the tree afterwards, also where the call fails. -/
def perform (tree : ScopeTree) (call : Call) : Except EvalError (Option Nat) × ScopeTree :=
  call.action.run.run tree

end ScopeTree

end Provision

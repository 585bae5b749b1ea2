import Provision.Command.Basic
import Provision.Expr.Diagnosis
import Provision.Expr.Evaluate

/-!
The command that evaluates an expression tree from a file, with variables bound on the command line.
-/

namespace Provision.Command

inductive BindingError where
  | noEquals (text : String)
  | noName (text : String)
  deriving Repr, DecidableEq

def BindingError.message : BindingError → String
  | .noEquals text => "expected NAME=VALUE, got '" ++ text ++ "'"
  | .noName text => "variable name cannot be empty in '" ++ text ++ "'"

/-- The name of a variable, without blanks around it and without dollar signs in front. -/
def bindingName (cs : List Char) : List Char := (Text.trim cs).dropWhile (· == '$')

/-- The value of a variable: JSON where the text is JSON, else the text itself. -/
def bindingValue (cs : List Char) : Value :=
  match Json.read? cs with
  | some j => Value.ofJson j
  | none => .string (String.ofList cs)

/-- Reads `NAME=VALUE`, cut at the first equals sign. -/
def readBinding (text : String) : Except BindingError (String × Value) :=
  match Text.splitFirst? '=' text.toList with
  | none => .error (.noEquals text)
  | some (before, after) =>
    let name := bindingName before
    if name.isEmpty then .error (.noName text)
    else .ok (String.ofList name, bindingValue after)

/-- Defines the variables one after the other in the root scope. -/
def defineBindings (tree : ScopeTree) : List (String × Value) → Stage ScopeTree
  | [] => pure tree
  | (name, value) :: rest => do
    match tree.define ScopeTree.root name value with
    | .error e => Stage.fail e.message []
    | .ok tree =>
      Stage.report [.defined ScopeTree.root name]
      defineBindings tree rest

/-- The events of an evaluation: one for each look-up of a name that is not bound. -/
def evaluationEvents (e : Expr) (tree : ScopeTree) (scope : Nat) : List Event :=
  ((e.reads (tree.lookup scope)).filter fun name => !tree.isDefined scope name).map
    (Event.readUnbound · scope)

/-- The tree in a file. -/
def loadTree (env : Environment) (path : String) : Stage Expr :=
  match (env.file path).read with
  | .error fault => Stage.fail ("Failed to read " ++ Text.quoted path) [fault.message]
  | .ok text =>
    match Expr.ofJsonText? text with
    | some e => pure e
    | none =>
      Stage.fail ("Failed to parse expression tree from " ++ Text.quoted path)
        [Expr.explain text]

def eval (env : Environment) (path : String) (bindings : List (String × Value)) :
    Stage (Nat × String) := do
  let e ← loadTree env path
  let tree ← defineBindings ScopeTree.new bindings
  let scope := ScopeTree.root
  Stage.report ((e.unresolvedIn tree scope).map Event.unresolved)
  Stage.report (evaluationEvents e tree scope)
  match e.evaluateIn tree scope with
  | .ok v => return (0, lines [v.jsonText])
  | .error error => Stage.fail ("Failed to evaluate " ++ e.text) [error.message]

end Provision.Command

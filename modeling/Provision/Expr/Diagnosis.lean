import Provision.Expr.Json
import Provision.Json.Cursor

/-!
Why a text is no expression tree. The kind of the outermost node is checked while the text is read,
so that it is what comes first in the text, a fault of the text or an unknown kind, that is
reported, with its place. All else about the tree is checked when the document is complete, and has
no place.
-/

namespace Provision.Expr

open Json (Cursor)

inductive Cause where
  | text (fault : Json.Fault)
  | tree (fault : Fault)
  deriving Repr, DecidableEq

def Cause.message : Cause → String
  | .text fault => fault.message
  | .tree fault => fault.message

/-- A cause and how many bytes of the text lead up to its place. -/
structure Failure where
  cause : Cause
  index : Nat
  deriving Repr, DecidableEq

def inText {α : Type} (result : Except Json.Stop α) : Except Failure α :=
  result.mapError fun stop => ⟨.text stop.fault, stop.index⟩

def inTree {α : Type} (fault : Fault) (c : Cursor) : Except Failure α :=
  .error ⟨.tree fault, c.index⟩

/-- Takes the name of a kind. -/
def takeTag (fuel : Nat) (c : Cursor) : Except Failure Cursor := do
  let c := c.skip
  if c.rest.isEmpty then inText (c.failNext .endInValue)
  else if c.sees '[' then inTree (.wrongKind "sequence" Tag.expectation) c
  else if c.sees '\x7b' then inTree (.wrongKind "map" Tag.expectation) c
  else
    let stop ← inText (c.scalar fuel)
    match c.documentUpTo stop with
    | some (.string s) =>
      match Tag.ofName s with
      | .ok _ => return stop
      | .error fault => inTree fault stop
    | some j => inTree (.wrongKind (describe j) Tag.expectation) stop
    | none => return stop

/-- Takes the members of the outermost node; `named` tells whether its kind has been named. -/
def takeMembers (named : Bool) (isFirst : Bool) : Nat → Cursor → Except Failure Cursor
  | 0, c => return c
  | fuel + 1, c => do
    match ← inText (c.nextKey isFirst) with
    | (false, c) => if named then return c else inTree (.missing "type") c
    | (true, c) =>
      let stop ← inText (c.quoted fuel)
      let isTag := match c.documentUpTo stop with
        | some (.string key) => key == "type"
        | _ => false
      if isTag && named then
        let stop := stop.skip
        inTree (.repeated "type") (if stop.sees '\x7d' then stop.next else stop)
      else
        let c ← inText stop.colon
        let c ← if isTag then takeTag fuel c else inText (c.value fuel (Json.maxDepth - 1))
        takeMembers (named || isTag) false fuel c

/-- Takes the outermost node. -/
def takeTree (c : Cursor) : Except Failure Cursor := do
  let c := c.skip
  if c.rest.isEmpty then inText (c.failNext .endInValue)
  else if c.sees '\x7b' then takeMembers false true c.fuel c.next
  else if c.sees '[' then
    match ← inText (c.next.nextItem true) with
    | (false, c) => inTree (.missing "type") c
    | (true, c) =>
      let fuel := c.fuel
      let c ← takeTag fuel c
      inText (c.items fuel (Json.maxDepth - 1) false)
  else
    let stop ← inText (c.scalar c.fuel)
    let found := (c.documentUpTo stop).getD .null
    inTree (.wrongKind (describe found) expectation) stop

/-- The message for a place in a text. -/
def placed (bytes : List UInt8) (failure : Failure) : String :=
  failure.cause.message ++
    " at line " ++ String.ofList (Text.digits (Json.lineAt bytes failure.index)) ++
    " column " ++ String.ofList (Text.digits (Json.columnAt bytes failure.index))

/-- Why a text that is not the JSON text of a tree is none. -/
def explain (text : String) : String :=
  let bytes := text.toUTF8.toList
  let start : Cursor := ⟨0, bytes⟩
  match takeTree start with
  | .error failure => placed bytes failure
  | .ok stop =>
    match (start.documentUpTo stop).map fun j => (reading j).tree with
    | some (.error fault) => fault.message
    | _ => placed bytes ⟨.text .trailingText, stop.skip.index + 1⟩

end Provision.Expr

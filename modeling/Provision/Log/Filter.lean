import Provision.Log.Directive
import Provision.Text.Split

/-!
Log filters: which events are reported. Of the directives that cover an event the most specific one
decides how severe it has to be.
-/

namespace Provision

namespace Directive

/-- The field that a directive asks for, if any. -/
def fieldName? (d : Directive) : Option String := d.field.map FieldTest.name

/-- A directive that is about events: events are outside of all spans, and their values are not
looked at. -/
def isStatic (d : Directive) : Bool :=
  d.span.isNone &&
    match d.field with
    | some (.valued ..) => false
    | _ => true

/-- A target covers every target that begins with it, and a field the events that have it. -/
def covers (d : Directive) (e : Event) : Bool :=
  d.isStatic && (d.target.all fun t => t.toList.isPrefixOf e.target.toList) &&
    d.fieldName?.all e.fieldNames.contains

/-- The length of the target; none counts as the shortest. -/
def reach (d : Directive) : Nat := (d.target.map String.length).getD 0

/-- Whether `a` is not less specific than `b`, for directives that cover one event: the longer
target is the more specific one, then the directive that asks for a field, then the greater
field. -/
def isAsSpecific (a b : Directive) : Bool :=
  if a.reach = b.reach then
    match a.fieldName?, b.fieldName? with
    | _, none => true
    | none, some _ => false
    | some x, some y => y ≤ x
  else b.reach < a.reach

/-- The most specific directive that covers an event; of equals the last. -/
def decisive? (directives : List Directive) (e : Event) : Option Directive :=
  (directives.filter (·.covers e)).foldl
    (fun best d =>
      match best with
      | none => some d
      | some b => if d.isAsSpecific b then some d else some b)
    none

end Directive

/-- A list of directives; where it is empty, only errors are reported. -/
structure LogFilter where
  directives : List Directive
  deriving Repr, DecidableEq

namespace LogFilter

def default : Directive := { target := none, threshold := .atLeast .error }

/-- A filter of the directives that are left, one at least. -/
def ofDirectives (directives : List Directive) : LogFilter :=
  ⟨if directives.isEmpty then [default] else directives⟩

def admits (filter : LogFilter) (e : Event) : Bool :=
  match Directive.decisive? filter.directives e with
  | some d => d.threshold.admits e.level
  | none => false

/-- The directives of a text, between commas. -/
def parts (text : String) : List (List Char) :=
  (Text.splitOn ',' text.toList).filter (!·.isEmpty)

/-- Reads a filter; directives that cannot be read are passed over. -/
def ofText (text : String) : LogFilter :=
  ofDirectives ((parts text).filterMap fun part => (Directive.read part).toOption)

/-- One line for each directive that is passed over. -/
def notices (text : String) : List String :=
  (parts text).filterMap fun part =>
    match Directive.read part with
    | .ok _ => none
    | .error e => some ("ignoring `" ++ String.ofList part ++ "`: " ++ e.message)

end LogFilter

end Provision

import Provision.Log.Event
import Provision.Log.FieldTest

/-!
Directives: what a log filter is made of. A directive is written `target[span{field}]=level`, where
every part may be left out. A level that stands alone is for every target, and any other word that
stands alone is a target.
-/

namespace Provision

/-- How severe an event has to be. -/
inductive Threshold where
  | off
  | atLeast (level : Level)
  deriving Repr, DecidableEq

namespace Threshold

def admits : Threshold → Level → Bool
  | off, _ => false
  | atLeast least, level => least.rank ≤ level.rank

/-- Thresholds by their numbers: the greater the number, the more is admitted. -/
def ofNumber? : Nat → Option Threshold
  | 0 => some .off
  | 1 => some (.atLeast .error)
  | 2 => some (.atLeast .warn)
  | 3 => some (.atLeast .info)
  | 4 => some (.atLeast .debug)
  | 5 => some (.atLeast .trace)
  | _ => none

def words : List (String × Threshold) := [
  ("off", .off), ("error", .atLeast .error), ("warn", .atLeast .warn), ("info", .atLeast .info),
  ("debug", .atLeast .debug), ("trace", .atLeast .trace)]

/-- A number, which may have a plus sign in front. -/
def number? (cs : List Char) : Option Nat :=
  let ds := match cs with
    | '+' :: rest => rest
    | _ => cs
  if Text.isDigits ds then some (Text.ofDigits ds) else none

/-- Reads a number or a word; the case of letters does not matter. -/
def read? (cs : List Char) : Option Threshold :=
  match number? cs with
  | some n => ofNumber? n
  | none => (words.find? (·.1.toList == Text.lowerAscii cs)).map (·.2)

end Threshold

structure Directive where
  target : Option String
  span : Option String := none
  field : Option FieldTest := none
  threshold : Threshold
  deriving Repr, DecidableEq

inductive DirectiveError where
  | malformed
  | badField (fault : Regex.Fault)
  | unknownLevel
  deriving Repr, DecidableEq

def DirectiveError.message : DirectiveError → String
  | .malformed => "invalid filter directive"
  | .badField fault => "invalid field filter: " ++ fault.message
  | .unknownLevel =>
    "error parsing level filter: expected one of \"off\", \"error\", \"warn\", \"info\", " ++
      "\"debug\", \"trace\", or a number 0-5"

namespace Directive

/-- The text of a directive that is not read yet: without the blanks around it, where its marks are
found, and as it is written, where its names are taken from the same places. Blanks in front thus
get into the first name. -/
structure Remaining where
  trimmed : List Char
  written : List Char

namespace Remaining

def ofText (written : List Char) : Remaining := ⟨Text.trim written, written⟩

/-- The name up to the first of some marks, and what is left from that mark on. -/
def name (r : Remaining) (marks : List Char) : String × Remaining :=
  let size := (r.trimmed.takeWhile (!marks.contains ·)).length
  (String.ofList (r.written.take size), ⟨r.trimmed.drop size, r.written.drop size⟩)

/-- What is left behind a mark. -/
def behind (r : Remaining) : Remaining := ⟨r.trimmed.tail, r.written.tail⟩

end Remaining

/-- Reads the level after an equals sign. No level at all admits everything. -/
def readThreshold (cs : List Char) : Except DirectiveError Threshold :=
  if cs.isEmpty then .ok (.atLeast .trace)
  else
    match Threshold.read? cs with
    | some t => .ok t
    | none => .error .unknownLevel

/-- Reads the text between braces. -/
def readField (text : String) : Except DirectiveError FieldTest :=
  if text.isEmpty then .error .malformed
  else (FieldTest.read text).mapError .badField

/-- What may follow the closing bracket: nothing, or a level. -/
def readEnd (target span : Option String) (field : Option FieldTest) (r : Remaining) :
    Except DirectiveError Directive :=
  match r.trimmed with
  | [] => .ok ⟨target, span, field, .atLeast .trace⟩
  | '=' :: _ => do return ⟨target, span, field, ← readThreshold r.behind.written⟩
  | _ => .error .malformed

/-- Reads what follows the opening bracket: the name of a span, a field in braces, or both. -/
def readSpan (target : Option String) (r : Remaining) : Except DirectiveError Directive :=
  let (span, r) := r.name ['\x7b', ']']
  match r.trimmed with
  | ']' :: _ => readEnd target (some span) none r.behind
  | '\x7b' :: _ =>
    let (text, r) := r.behind.name ['\x7d']
    match r.trimmed with
    | '\x7d' :: after => do
      let field ← readField text
      let span := if span.isEmpty then none else some span
      match after with
      | ']' :: _ => readEnd target span (some field) r.behind.behind
      | _ => .error .malformed
    | _ => .error .malformed
  | _ => .error .malformed

/-- A character that a directive without an opening bracket may begin with. -/
def startsName (c : Char) : Bool := c == '-' || c == ':' || c == '_' || Text.isAlphanumeric c

/-- Reads one directive. -/
def read (text : List Char) : Except DirectiveError Directive :=
  let r := Remaining.ofText text
  match r.trimmed with
  | [] => .error .malformed
  | '[' :: _ => readSpan none r.behind
  | c :: _ =>
    if !startsName c then .error .malformed
    else
      let (target, r) := r.name ['=', '[']
      match r.trimmed with
      | [] =>
        match Threshold.read? text with
        | some t => .ok { target := none, threshold := t }
        | none => .ok { target := some (String.ofList text), threshold := .atLeast .trace }
      | '=' :: _ => do
        return { target := some target, threshold := ← readThreshold r.behind.written }
      | _ => readSpan (some target) r.behind

end Directive

end Provision

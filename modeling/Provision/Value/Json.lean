import Provision.Json.Printer
import Provision.Json.Reader
import Provision.Value.Basic

/-!
Values as JSON. Every document is a value: `null` is `undef`, numbers keep their kind, and of the
members of an object with one name the last counts.
-/

namespace Provision.Value

mutual

def toJson : Value → Json
  | .undef => .null
  | .boolean b => .boolean b
  | .integer n => .number (.integer n)
  | .float x => .number (.float x)
  | .string s => .string s
  | .array items => .array (toJsonItems items)
  | .hash entries => .object (toJsonEntries entries)

def toJsonItems : List Value → List Json
  | [] => []
  | v :: rest => v.toJson :: toJsonItems rest

def toJsonEntries : List (String × Value) → List (String × Json)
  | [] => []
  | (key, v) :: rest => (key, v.toJson) :: toJsonEntries rest

end

mutual

def ofJson : Json → Value
  | .null => .undef
  | .boolean b => .boolean b
  | .number n => ofNumber n
  | .string s => .string s
  | .array items => .array (ofJsonItems items)
  | .object members => .hash (KeyedList.ofPairs (ofJsonMembers members))

def ofJsonItems : List Json → List Value
  | [] => []
  | j :: rest => ofJson j :: ofJsonItems rest

def ofJsonMembers : List (String × Json) → List (String × Value)
  | [] => []
  | (key, j) :: rest => (key, ofJson j) :: ofJsonMembers rest

end

/-- JSON text of a value. -/
def jsonText (v : Value) : String := String.ofList v.toJson.print

/-- Reads all of a text as the JSON text of a value. -/
def ofJsonText? (text : String) : Option Value := (Json.read? text.toList).map ofJson

end Provision.Value

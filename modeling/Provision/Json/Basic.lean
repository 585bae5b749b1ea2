import Provision.Number

/-!
JSON documents. A number keeps its kind, integer or double, and the members of an object stand in
the order of the text, repeated names included.
-/

namespace Provision

inductive Json where
  | null
  | boolean (b : Bool)
  | number (n : Number)
  | string (s : String)
  | array (items : List Json)
  | object (members : List (String × Json))
  deriving Inhabited

namespace Json

/-- How deep arrays and objects may be nested in a text. -/
def maxDepth : Nat := 127

mutual

/-- How many arrays and objects are around the innermost value. -/
def depth : Json → Nat
  | .array items => depthOfAll items + 1
  | .object members => depthOfMembers members + 1
  | _ => 0

def depthOfAll : List Json → Nat
  | [] => 0
  | j :: rest => max j.depth (depthOfAll rest)

def depthOfMembers : List (String × Json) → Nat
  | [] => 0
  | (_, j) :: rest => max j.depth (depthOfMembers rest)

end

end Json

end Provision

import Provision.Json.Token

/-!
Reading of JSON documents from tokens. The reader keeps the containers that it is in on a stack,
which may hold no more than `maxDepth` of them.
-/

namespace Provision.Json

/-- A container that a value is being read in, its earlier contents latest first. -/
inductive Frame where
  | array (items : List Json)
  | object (members : List (String × Json)) (key : String)

namespace Reader

/-- What may come next, and in which containers. -/
inductive State where
  | value (stack : List Frame)
  | firstItem (stack : List Frame)
  | firstKey (stack : List Frame)
  | nextKey (members : List (String × Json)) (stack : List Frame)
  | colon (members : List (String × Json)) (key : String) (stack : List Frame)
  | afterItem (items : List Json) (stack : List Frame)
  | afterMember (members : List (String × Json)) (stack : List Frame)
  | done (document : Json)

/-- A value is complete: it goes into the innermost container. -/
def deliver (j : Json) : List Frame → State
  | [] => .done j
  | .array items :: stack => .afterItem (j :: items) stack
  | .object members key :: stack => .afterMember ((key, j) :: members) stack

/-- A token at a place where a value must begin. -/
def begin? (stack : List Frame) : Token → Option State
  | .null => some (deliver .null stack)
  | .boolean b => some (deliver (.boolean b) stack)
  | .number n => some (deliver (.number n) stack)
  | .string s => some (deliver (.string s) stack)
  | .openArray => if stack.length < maxDepth then some (.firstItem stack) else none
  | .openObject => if stack.length < maxDepth then some (.firstKey stack) else none
  | _ => none

def step : State → Token → Option State
  | .value stack, t => begin? stack t
  | .firstItem stack, .closeArray => some (deliver (.array []) stack)
  | .firstItem stack, t => begin? (.array [] :: stack) t
  | .afterItem items stack, .comma => some (.value (.array items :: stack))
  | .afterItem items stack, .closeArray => some (deliver (.array items.reverse) stack)
  | .firstKey stack, .closeObject => some (deliver (.object []) stack)
  | .firstKey stack, .string key => some (.colon [] key stack)
  | .nextKey members stack, .string key => some (.colon members key stack)
  | .colon members key stack, .colon => some (.value (.object members key :: stack))
  | .afterMember members stack, .comma => some (.nextKey members stack)
  | .afterMember members stack, .closeObject => some (deliver (.object members.reverse) stack)
  | _, _ => none

def run (state : State) (tokens : List Token) : Option State := tokens.foldlM step state

end Reader

def ofTokens? (tokens : List Token) : Option Json :=
  match Reader.run (.value []) tokens with
  | some (.done document) => some document
  | _ => none

/-- Reads all of a text as one document. -/
def read? (text : List Char) : Option Json := (Token.lex text).bind ofTokens?

end Provision.Json

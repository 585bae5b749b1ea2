import Provision.Expr.Basic
import Provision.Expr.Fault
import Provision.Value.Json

/-!
Expression trees as JSON. A node is an object whose member `type` names its kind, beside one member
for each of its fields; members of other names are passed over, and a repeated one is refused. A
node may also be an array of the kind and all fields in order.
-/

namespace Provision.Expr

/-- The kinds of nodes. -/
inductive Tag where
  | literal
  | var
  | unary
  | binary
  | branch
  deriving Repr, DecidableEq

namespace Tag

def all : List Tag := [.literal, .var, .unary, .binary, .branch]

def name : Tag → String
  | .literal => "literal"
  | .var => "variable"
  | .unary => "unary"
  | .binary => "binary"
  | .branch => "branch"

/-- The kind as messages name it. -/
def title : Tag → String
  | .literal => "Literal"
  | .var => "Variable"
  | .unary => "Unary"
  | .binary => "Binary"
  | .branch => "Branch"

/-- The fields of a node, in order. -/
def fields : Tag → List String
  | .literal => ["value"]
  | .var => ["name"]
  | .unary => ["op", "operand"]
  | .binary => ["op", "left", "right"]
  | .branch => ["kind", "children"]

def ofName (name : String) : Except Fault Tag :=
  match all.find? (·.name == name) with
  | some tag => .ok tag
  | none => .error (.unknown name (all.map Tag.name))

/-- What is expected where a kind is named. -/
def expectation : String := "variant identifier"

/-- A kind is written by its name, or inside another node also by its place in the list of kinds. -/
def ofJson (j : Json) : Except Fault Tag :=
  match j with
  | .string s => ofName s
  | .number (.integer n) =>
    if n.toInt < 0 then .error (.wrongKind (describe j) expectation)
    else
      match all[n.toInt.toNat]? with
      | some tag => .ok tag
      | none => .error (.wrongValue (describe j) "variant index 0 <= i < 5")
  | j => .error (.wrongKind (describe j) expectation)

end Tag

mutual

def toJson : Expr → Json
  | .literal value => .object [("type", .string "literal"), ("value", value.toJson)]
  | .var name => .object [("type", .string "variable"), ("name", .string name)]
  | .unary op operand =>
    .object [("type", .string "unary"), ("op", .string op.name), ("operand", operand.toJson)]
  | .binary op left right =>
    .object [("type", .string "binary"), ("op", .string op.name), ("left", left.toJson),
      ("right", right.toJson)]
  | .branch kind children =>
    .object [("type", .string "branch"), ("kind", .string kind.name),
      ("children", .array (toJsonOfAll children))]

def toJsonOfAll : List Expr → List Json
  | [] => []
  | e :: rest => e.toJson :: toJsonOfAll rest

end

/-- Finds a choice by its name. -/
def named {α : Type} (all : List α) (name : α → String) (s : String) : Except Fault α :=
  match all.find? (name · == s) with
  | some a => .ok a
  | none => .error (.unknown s (all.map name))

/-- Reads one of some choices: a string, or an object with that one member and nothing in it. -/
def choice {α : Type} (all : List α) (name : α → String) : Json → Except Fault α
  | .string s => named all name s
  | .object [(s, j)] => do
    let a ← named all name s
    match j with
    | .null => return a
    | .object [] => return a
    | j => .error (.wrongKind (describe j) "unit")
  | .object _ => .error (.wrongValue "map" "map with a single key")
  | j => .error (.wrongKind (describe j) "string or map")

def stringOf : Json → Except Fault String
  | .string s => .ok s
  | j => .error (.wrongKind (describe j) "a string")

/-- What is expected where a tree stands. -/
def expectation : String := "internally tagged enum Expr"

/-- A document together with what it reads as where a tree, or a list of trees, is wanted. -/
structure Reading where
  plain : Json
  tree : Except Fault Expr
  trees : Except Fault (List Expr)

/-- The fields of a node that have been read so far. -/
structure Fields where
  value : Option Value := none
  name : Option String := none
  unaryOp : Option UnaryOp := none
  binaryOp : Option BinaryOp := none
  operand : Option Expr := none
  left : Option Expr := none
  right : Option Expr := none
  kind : Option BranchKind := none
  children : Option (List Expr) := none

namespace Fields

/-- Sets a field that must not have been set before. -/
def fill {α : Type} (key : String) (old : Option α) (new : Except Fault α) :
    Except Fault (Option α) :=
  if old.isSome then .error (.repeated key) else new.map some

/-- Reads one field of a node; other names are passed over. -/
def put (tag : Tag) (fs : Fields) (key : String) (r : Reading) : Except Fault Fields :=
  match tag, key with
  | .literal, "value" =>
    return { fs with value := ← fill key fs.value (.ok (Value.ofJson r.plain)) }
  | .var, "name" => return { fs with name := ← fill key fs.name (stringOf r.plain) }
  | .unary, "op" =>
    return { fs with unaryOp := ← fill key fs.unaryOp (choice UnaryOp.all UnaryOp.name r.plain) }
  | .unary, "operand" => return { fs with operand := ← fill key fs.operand r.tree }
  | .binary, "op" =>
    return { fs with
      binaryOp := ← fill key fs.binaryOp (choice BinaryOp.all BinaryOp.name r.plain) }
  | .binary, "left" => return { fs with left := ← fill key fs.left r.tree }
  | .binary, "right" => return { fs with right := ← fill key fs.right r.tree }
  | .branch, "kind" =>
    return { fs with kind := ← fill key fs.kind (choice BranchKind.all BranchKind.name r.plain) }
  | .branch, "children" => return { fs with children := ← fill key fs.children r.trees }
  | _, _ => return fs

def putAll (tag : Tag) (members : List (String × Reading)) : Except Fault Fields :=
  members.foldlM (fun fs (key, r) => fs.put tag key r) {}

def need {α : Type} (key : String) : Option α → Except Fault α
  | some a => .ok a
  | none => .error (.missing key)

/-- The node that has these fields. A branch is a sequence where nothing is said. -/
def node (tag : Tag) (fs : Fields) : Except Fault Expr :=
  match tag with
  | .literal => return .literal (← need "value" fs.value)
  | .var => return .var (← need "name" fs.name)
  | .unary => return .unary (← need "op" fs.unaryOp) (← need "operand" fs.operand)
  | .binary =>
    return .binary (← need "op" fs.binaryOp) (← need "left" fs.left) (← need "right" fs.right)
  | .branch => return .branch (fs.kind.getD .sequence) (← need "children" fs.children)

end Fields

/-- The kind that the members of a node name, once. -/
def tagOfMembers (found : Option Tag) : List (String × Reading) → Except Fault Tag
  | [] => Fields.need "type" found
  | (key, r) :: rest =>
    if key = "type" then do tagOfMembers (← Fields.fill key found (Tag.ofJson r.plain)) rest
    else tagOfMembers found rest

/-- The node written as an object with these members. -/
def ofMembers (members : List (String × Reading)) : Except Fault Expr := do
  let tag ← tagOfMembers none members
  (← Fields.putAll tag members).node tag

/-- What is wrong with a number of items, if they are fewer or more than the fields of a node. In an
empty branch it is the second field that is missed, since the first may be left out. -/
def checkCount (tag : Tag) (count : Nat) : Except Fault Unit :=
  let wanted := tag.fields.length
  if count < wanted then
    let missed := if tag = .branch then 1 else count
    .error (.wrongCount missed
      ("struct variant Expr::" ++ tag.title ++ " with " ++ countText wanted))
  else if wanted < count then .error (.wrongCount count (countText wanted ++ " in sequence"))
  else .ok ()

/-- The node written as an array of these items. -/
def ofItems : List Reading → Except Fault Expr
  | [] => .error (.missing "type")
  | first :: rest => do
    let tag ← Tag.ofJson first.plain
    let fs ← Fields.putAll tag (tag.fields.zip rest)
    checkCount tag rest.length
    fs.node tag

mutual

def reading : Json → Reading
  | .array items =>
    let rs := readings items
    ⟨.array items, ofItems rs, rs.mapM (·.tree)⟩
  | .object members =>
    ⟨.object members, ofMembers (memberReadings members),
      .error (.wrongKind "map" "a sequence")⟩
  | j =>
    ⟨j, .error (.wrongKind (describe j) expectation),
      .error (.wrongKind (describe j) "a sequence")⟩

def readings : List Json → List Reading
  | [] => []
  | j :: rest => reading j :: readings rest

def memberReadings : List (String × Json) → List (String × Reading)
  | [] => []
  | (key, j) :: rest => (key, reading j) :: memberReadings rest

end

def isString : Json → Bool
  | .string _ => true
  | _ => false

/-- Whether the kind of a node is written by its name. -/
def isNamed : Json → Bool
  | .object members => members.any fun m => m.1 == "type" && isString m.2
  | .array (first :: _) => isString first
  | _ => false

/-- The tree that a document stands for. -/
def ofJson? (j : Json) : Option Expr := if isNamed j then (reading j).tree.toOption else none

/-- JSON text of a tree. -/
def jsonText (e : Expr) : String := String.ofList e.toJson.print

/-- Reads all of a text as the JSON text of a tree. -/
def ofJsonText? (text : String) : Option Expr := (Json.read? text.toList).bind ofJson?

end Provision.Expr

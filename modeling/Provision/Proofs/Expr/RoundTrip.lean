import Provision.Expr.Json
import Provision.Proofs.Expr.Walk
import Provision.Proofs.Value.Json

/-!
Reading back the JSON text of a tree. Each node is written as an object that names its kind first,
and the fields of that kind are read back one by one; what remains is the text itself, which is
refused only when it is nested too deep.
-/

namespace Provision.Expr

def literal? : Expr → Option Value
  | .literal value => some value
  | _ => none

/-- The values written in a tree. -/
def literals (e : Expr) : List Value := e.walk.filterMap literal?

theorem mem_literals_self (value : Value) : value ∈ (literal value).literals :=
  List.mem_filterMap.mpr ⟨literal value, self_mem_walk _, rfl⟩

theorem mem_literals_of_child {c e : Expr} {value : Value} (child : c ∈ e.children)
    (member : value ∈ c.literals) : value ∈ e.literals := by
  obtain ⟨node, found, isLiteral⟩ := List.mem_filterMap.mp member
  exact List.mem_filterMap.mpr ⟨node, mem_walk_of_child child found, isLiteral⟩

theorem plain_reading (j : Json) : (reading j).plain = j := by
  cases j <;> rfl

/-- The fields of a node that says its kind first are read as fields of that kind. -/
theorem ofMembers_tagged (tag : Tag) (members : List (String × Reading))
    (untagged : ∀ m ∈ members, m.1 ≠ "type") :
    ofMembers (("type", reading (.string tag.name)) :: members) =
      (do (← Fields.putAll tag members).node tag) := by
  have kept : ∀ found : Tag, tagOfMembers (some found) members = .ok found := by
    intro found
    induction members with
    | nil => rfl
    | cons m rest ih =>
      obtain ⟨key, r⟩ := m
      have other : ¬key = "type" := untagged (key, r) List.mem_cons_self
      rw [tagOfMembers, if_neg other]
      exact ih fun m member => untagged m (List.mem_cons_of_mem _ member)
  have named : tagOfMembers none (("type", reading (.string tag.name)) :: members) = .ok tag := by
    have ofName : Tag.ofJson (.string tag.name) = .ok tag := by cases tag <;> rfl
    rw [tagOfMembers, if_pos rfl, plain_reading, ofName]
    exact kept tag
  rw [ofMembers, named]
  cases tag <;> rfl

theorem choice_unaryOp (op : UnaryOp) :
    choice UnaryOp.all UnaryOp.name (.string op.name) = .ok op := by
  cases op <;> rfl

theorem choice_binaryOp (op : BinaryOp) :
    choice BinaryOp.all BinaryOp.name (.string op.name) = .ok op := by
  cases op with
  | arithmetic op => cases op <;> rfl
  | compare op => cases op <;> rfl
  | logical op => cases op <;> rfl
  | _ => rfl

theorem choice_branchKind (kind : BranchKind) :
    choice BranchKind.all BranchKind.name (.string kind.name) = .ok kind := by
  cases kind <;> rfl

mutual

/-- The document of a tree stands for that tree. -/
theorem tree_reading_toJson (e : Expr) (ascending : ∀ value ∈ e.literals, value.KeysAscending) :
    (reading e.toJson).tree = .ok e := by
  have below : ∀ c ∈ e.children, ∀ value ∈ c.literals, value.KeysAscending :=
    fun c child value member => ascending value (mem_literals_of_child child member)
  cases e with
  | literal value =>
    have same := Value.ofJson_toJson value (ascending value (mem_literals_self value))
    refine (ofMembers_tagged .literal [("value", reading value.toJson)] (by simp)).trans ?_
    simp only [Fields.putAll, List.foldlM_cons, Fields.put, plain_reading, same]
    rfl
  | var name => exact ofMembers_tagged .var [("name", reading (.string name))] (by simp)
  | unary op operand =>
    have inner := tree_reading_toJson operand (below operand (by simp [children]))
    refine (ofMembers_tagged .unary
      [("op", reading (.string op.name)), ("operand", reading operand.toJson)] (by simp)).trans ?_
    simp only [Fields.putAll, List.foldlM_cons, Fields.put, plain_reading, choice_unaryOp, inner]
    rfl
  | binary op left right =>
    have inLeft := tree_reading_toJson left (below left (by simp [children]))
    have inRight := tree_reading_toJson right (below right (by simp [children]))
    refine (ofMembers_tagged .binary
      [("op", reading (.string op.name)), ("left", reading left.toJson),
        ("right", reading right.toJson)] (by simp)).trans ?_
    simp only [Fields.putAll, List.foldlM_cons, Fields.put, plain_reading, choice_binaryOp, inLeft,
      inRight]
    rfl
  | branch kind cs =>
    have inner : (reading (.array (toJsonOfAll cs))).trees = .ok cs :=
      trees_readings_toJsonOfAll cs below
    refine (ofMembers_tagged .branch
      [("kind", reading (.string kind.name)), ("children", reading (.array (toJsonOfAll cs)))]
      (by simp)).trans ?_
    simp only [Fields.putAll, List.foldlM_cons, Fields.put, plain_reading, choice_branchKind, inner]
    rfl

theorem trees_readings_toJsonOfAll (es : List Expr)
    (ascending : ∀ e ∈ es, ∀ value ∈ e.literals, value.KeysAscending) :
    (readings (toJsonOfAll es)).mapM (·.tree) = .ok es := by
  cases es with
  | nil => rfl
  | cons e rest =>
    have first := tree_reading_toJson e (ascending e List.mem_cons_self)
    have others := trees_readings_toJsonOfAll rest fun c member =>
      ascending c (List.mem_cons_of_mem e member)
    rw [toJsonOfAll, readings, List.mapM_cons, first, others]
    rfl

end

mutual

theorem isIntegral_toJson (e : Expr) (floatFree : ∀ value ∈ e.literals, value.FloatFree) :
    e.toJson.IsIntegral := by
  have below : ∀ c ∈ e.children, ∀ value ∈ c.literals, value.FloatFree :=
    fun c child value member => floatFree value (mem_literals_of_child child member)
  cases e with
  | literal value =>
    exact ⟨trivial, Value.isIntegral_toJson value (floatFree value (mem_literals_self value)),
      trivial⟩
  | var name => exact ⟨trivial, trivial, trivial⟩
  | unary op operand =>
    have inner := isIntegral_toJson operand (below operand (by simp [children]))
    exact ⟨trivial, trivial, inner, trivial⟩
  | binary op left right =>
    have inLeft := isIntegral_toJson left (below left (by simp [children]))
    have inRight := isIntegral_toJson right (below right (by simp [children]))
    exact ⟨trivial, trivial, inLeft, inRight, trivial⟩
  | branch kind cs =>
    exact ⟨trivial, trivial, allIntegral_toJsonOfAll cs below, trivial⟩

theorem allIntegral_toJsonOfAll (es : List Expr)
    (floatFree : ∀ e ∈ es, ∀ value ∈ e.literals, value.FloatFree) :
    Json.AllIntegral (toJsonOfAll es) := by
  cases es with
  | nil => trivial
  | cons e rest =>
    exact ⟨isIntegral_toJson e (floatFree e List.mem_cons_self),
      allIntegral_toJsonOfAll rest fun c member => floatFree c (List.mem_cons_of_mem e member)⟩

end

theorem isNamed_toJson (e : Expr) : isNamed e.toJson = true := by
  cases e <;> rfl

/-- The JSON text of a tree without floats is read back as exactly that tree while its arrays and
objects are nested at most 127 deep, and is refused when they are nested deeper. A hash holds its
keys in ascending order, as every hash that was read does. -/
theorem ofJsonText?_jsonText (e : Expr) (floatFree : ∀ value ∈ e.literals, value.FloatFree)
    (ascending : ∀ value ∈ e.literals, value.KeysAscending) :
    ofJsonText? e.jsonText = if e.toJson.depth ≤ 127 then some e else none := by
  have read : Json.read? e.toJson.print = if e.toJson.depth ≤ 127 then some e.toJson else none :=
    Json.read?_print e.toJson (isIntegral_toJson e floatFree)
  have tree := tree_reading_toJson e ascending
  rw [ofJsonText?, jsonText, String.toList_ofList, read]
  by_cases room : e.toJson.depth ≤ 127
  · rw [if_pos room, if_pos room, Option.bind_some, ofJson?, isNamed_toJson, if_pos rfl, tree]
    rfl
  · rw [if_neg room, if_neg room, Option.bind_none]

/-- A hash with an escaped key and the least integer below an operator. -/
theorem ofJsonText?_jsonText_hash :
    let value : Value := .hash [("\n", .integer (-9223372036854775808)), ("é", .array [.undef])]
    let e : Expr := .binary .member (.var "x") (.literal value)
    (∀ v ∈ e.literals, v.FloatFree) ∧ (∀ v ∈ e.literals, v.KeysAscending) ∧
      ofJsonText? e.jsonText = some e := by
  intro value e
  have only : ∀ v ∈ e.literals, v = value := by
    intro v member
    have same : value = v := by simpa [e, literals, walk_eq, children, literal?] using member
    exact same.symm
  have floatFree : ∀ v ∈ e.literals, v.FloatFree := by
    intro v member
    rw [only v member]
    simp [value, Value.FloatFree, Value.parts, Value.partsOfEntries, Value.partsOfItems]
  have ascending : ∀ v ∈ e.literals, v.KeysAscending := by
    intro v member entries part
    rw [only v member] at part
    have same : entries =
        [("\n", .integer (-9223372036854775808)), ("é", .array [.undef])] := by
      simpa [value, Value.parts, Value.partsOfEntries, Value.partsOfItems] using part
    subst same
    exact (KeyedList.ascending_cons _ _ _).mpr ⟨by decide, List.pairwise_singleton _ _⟩
  have read := ofJsonText?_jsonText e floatFree ascending
  exact ⟨floatFree, ascending, read.trans (if_pos (by decide))⟩

end Provision.Expr

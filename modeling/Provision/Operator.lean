/-!
The operators of the language, grouped by what they do with their operands, with the symbol shown in
an expression and the name used in its serialized form.
-/

namespace Provision

inductive UnaryOp where
  | minus
  | not
  deriving Repr, DecidableEq

/-- Operators that need two numbers. -/
inductive Arithmetic where
  | plus
  | minus
  | times
  | divide
  | modulo
  | leftShift
  | rightShift
  deriving Repr, DecidableEq

/-- Operators that need an order between their operands. -/
inductive Comparison where
  | less
  | lessEqual
  | greater
  | greaterEqual
  deriving Repr, DecidableEq

/-- Operators on truth, whose right operand may be left alone. -/
inductive Connective where
  | and
  | or
  deriving Repr, DecidableEq

inductive BinaryOp where
  | arithmetic (op : Arithmetic)
  | equal
  | notEqual
  | compare (op : Comparison)
  | logical (op : Connective)
  | member
  deriving Repr, DecidableEq

namespace UnaryOp

def all : List UnaryOp := [.minus, .not]

def symbol : UnaryOp → String
  | .minus => "-"
  | .not => "!"

def name : UnaryOp → String
  | .minus => "minus"
  | .not => "not"

def ofName? (name : String) : Option UnaryOp := all.find? (·.name == name)

end UnaryOp

namespace Arithmetic

def symbol : Arithmetic → String
  | .plus => "+"
  | .minus => "-"
  | .times => "*"
  | .divide => "/"
  | .modulo => "%"
  | .leftShift => "<<"
  | .rightShift => ">>"

def name : Arithmetic → String
  | .plus => "plus"
  | .minus => "minus"
  | .times => "times"
  | .divide => "divide"
  | .modulo => "modulo"
  | .leftShift => "left_shift"
  | .rightShift => "right_shift"

end Arithmetic

namespace Comparison

def symbol : Comparison → String
  | .less => "<"
  | .lessEqual => "<="
  | .greater => ">"
  | .greaterEqual => ">="

def name : Comparison → String
  | .less => "less"
  | .lessEqual => "less_equal"
  | .greater => "greater"
  | .greaterEqual => "greater_equal"

/-- Whether a comparison holds of two operands in this order. -/
def holds : Comparison → Ordering → Bool
  | .less, o => o == .lt
  | .lessEqual, o => o != .gt
  | .greater, o => o == .gt
  | .greaterEqual, o => o != .lt

end Comparison

namespace Connective

def symbol : Connective → String
  | .and => "and"
  | .or => "or"

/-- The truth of the left operand that decides the whole. -/
def decidedBy : Connective → Bool
  | .and => false
  | .or => true

def holds : Connective → Bool → Bool → Bool
  | .and, a, b => a && b
  | .or, a, b => a || b

end Connective

namespace BinaryOp

def all : List BinaryOp := [
  .arithmetic .plus, .arithmetic .minus, .arithmetic .times, .arithmetic .divide,
  .arithmetic .modulo, .arithmetic .leftShift, .arithmetic .rightShift, .equal, .notEqual,
  .compare .less, .compare .lessEqual, .compare .greater, .compare .greaterEqual,
  .logical .and, .logical .or, .member]

def symbol : BinaryOp → String
  | .arithmetic op => op.symbol
  | .equal => "=="
  | .notEqual => "!="
  | .compare op => op.symbol
  | .logical op => op.symbol
  | .member => "in"

def name : BinaryOp → String
  | .arithmetic op => op.name
  | .equal => "equal"
  | .notEqual => "not_equal"
  | .compare op => op.name
  | .logical op => op.symbol
  | .member => "in"

def ofName? (name : String) : Option BinaryOp := all.find? (·.name == name)

end BinaryOp

end Provision

import Provision.KeyedList
import Provision.Numeral

/-!
Values of the language. An array is ordered, a hash has text keys in ascending order; both hold
values of any kind. Numbers are integers and doubles, and a string that is a numeral counts as one
wherever a number is wanted.
-/

namespace Provision

inductive Value where
  | undef
  | boolean (b : Bool)
  | integer (n : Int64)
  | float (x : Float)
  | string (s : String)
  | array (items : List Value)
  | hash (entries : List (String × Value))
  deriving Inhabited

namespace Value

/-- The kinds of values, as error messages name them. -/
inductive Kind where
  | undef
  | boolean
  | integer
  | float
  | string
  | array
  | hash
  deriving Repr, DecidableEq

def Kind.name : Kind → String
  | .undef => "undef"
  | .boolean => "boolean"
  | .integer => "integer"
  | .float => "float"
  | .string => "string"
  | .array => "array"
  | .hash => "hash"

def kind : Value → Kind
  | .undef => .undef
  | .boolean _ => .boolean
  | .integer _ => .integer
  | .float _ => .float
  | .string _ => .string
  | .array _ => .array
  | .hash _ => .hash

/-- Only `undef` and `false` are falsy; zero and the empty string are truthy. -/
def isTruthy : Value → Bool
  | .undef => false
  | .boolean b => b
  | _ => true

def isUndef : Value → Bool
  | .undef => true
  | _ => false

def string? : Value → Option String
  | .string s => some s
  | _ => none

def ofNumber : Number → Value
  | .integer n => .integer n
  | .float x => .float x

/-- The number that a value counts as. Booleans, collections and `undef` count as none. -/
def number? : Value → Option Number
  | .integer n => some (.integer n)
  | .float x => some (.float x)
  | .string s => Number.ofText? s
  | _ => none

mutual

/-- Text of a value as shown to a reader; strings stand without quotes. -/
def text : Value → String
  | .undef => "undef"
  | .boolean b => if b then "true" else "false"
  | .integer n => Text.decimalText n.toInt
  | .float x => String.ofList (Binary64.Layout.shown.render x)
  | .string s => s
  | .array items => "[" ++ ", ".intercalate (textItems items) ++ "]"
  | .hash entries => "\x7b" ++ ", ".intercalate (textEntries entries) ++ "\x7d"

def textItems : List Value → List String
  | [] => []
  | v :: rest => v.text :: textItems rest

def textEntries : List (String × Value) → List String
  | [] => []
  | (key, v) :: rest => (key ++ " => " ++ v.text) :: textEntries rest

end

mutual

/-- Equality without any coercion: the kinds agree and so do the contents. Doubles are compared as
numbers, so a NaN differs from itself and the two zeros are the same. -/
def same : Value → Value → Bool
  | .undef, .undef => true
  | .boolean a, .boolean b => a == b
  | .integer a, .integer b => a == b
  | .float a, .float b => Binary64.equal a.toBits b.toBits
  | .string a, .string b => a == b
  | .array a, .array b => sameItems a b
  | .hash a, .hash b => sameEntries a b
  | _, _ => false

def sameItems : List Value → List Value → Bool
  | [], [] => true
  | a :: as, b :: bs => same a b && sameItems as bs
  | _, _ => false

def sameEntries : List (String × Value) → List (String × Value) → Bool
  | [], [] => true
  | (j, a) :: as, (k, b) :: bs => j == k && same a b && sameEntries as bs
  | _, _ => false

end

end Value

end Provision

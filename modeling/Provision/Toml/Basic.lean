import Provision.Number

/-!
TOML documents. Dates and times are kept as they are written, since nothing here computes with them.
-/

namespace Provision

inductive Toml where
  | string (s : String)
  | integer (n : Int64)
  | float (x : Float)
  | boolean (b : Bool)
  | dateTime (text : List Char)
  | array (items : List Toml)
  | table (entries : List (String × Toml))
  deriving Inhabited

namespace Toml

/-- How deep arrays and inline tables may be nested, and how many parts a key may have. -/
def maxDepth : Nat := 79

/-- The value under a key. -/
def get? (key : String) (entries : List (String × Toml)) : Option Toml :=
  (entries.find? (·.1 == key)).map (·.2)

end Toml

end Provision

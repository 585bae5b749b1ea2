import Provision.Text.LowerCase
import Provision.Value.Basic

/-!
Comparison of values as the language sees it. Two values that count as numbers are compared as
numbers, whatever their kinds; two other strings are compared without regard to case. Equality is
defined for every pair, order only for numbers and strings.
-/

namespace Provision.Value

/-- Equality across kinds. `undef` equals the empty string. -/
def equal (a b : Value) : Bool :=
  match a.number?, b.number? with
  | some m, some n => m.equal n
  | _, _ =>
    match a, b with
    | .string s, .string t => Text.sameButCase s t
    | .undef, .string s => s.isEmpty
    | .string s, .undef => s.isEmpty
    | a, b => a.same b

/-- Order of two numbers or two strings; there is none for other pairs, nor for a NaN. -/
def compare? (a b : Value) : Option Ordering :=
  match a.number?, b.number? with
  | some m, some n => m.compare? n
  | _, _ =>
    match a, b with
    | .string s, .string t => some (Text.compareFolded s t)
    | _, _ => none

/-- Whether one text occurs in another as a run of characters. -/
def occursIn (needle haystack : List Char) : Bool :=
  match haystack with
  | [] => needle.isEmpty
  | c :: rest => needle.isPrefixOf (c :: rest) || occursIn needle rest

/-- `needle in container`: part of a string, item of an array or key of a hash. Other pairs have
no answer. -/
def memberOf? (needle container : Value) : Option Bool :=
  match needle, container with
  | .string s, .string t => some (occursIn s.toList t.toList)
  | v, .array items => some (items.any (v.equal ·))
  | .string key, .hash entries => some (KeyedList.get? key entries).isSome
  | _, _ => none

end Provision.Value

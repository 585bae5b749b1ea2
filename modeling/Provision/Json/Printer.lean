import Provision.Json.Basic

/-!
Compact text of JSON documents, without any space. In a string only the quote, the backslash and the
control characters below U+0020 are escaped.
-/

namespace Provision.Json

def hexDigit (n : Nat) : Char := if n < 10 then Char.ofNat (48 + n) else Char.ofNat (87 + n)

/-- One character inside a string. -/
def escapeChar (c : Char) : List Char :=
  match c with
  | '"' => ['\\', '"']
  | '\\' => ['\\', '\\']
  | '\n' => ['\\', 'n']
  | '\r' => ['\\', 'r']
  | '\t' => ['\\', 't']
  | '\u0008' => ['\\', 'b']
  | '\u000c' => ['\\', 'f']
  | c =>
    if c.toNat < 0x20 then
      ['\\', 'u', '0', '0', hexDigit (c.toNat / 16), hexDigit (c.toNat % 16)]
    else [c]

/-- A string in quotes, in front of `after`. -/
def quotedBefore (after : List Char) (s : String) : List Char :=
  '"' :: (s.toList.flatMap escapeChar ++ '"' :: after)

/-- Text of a number. A double that is not finite has none and becomes `null`. -/
def numberText : Number → List Char
  | .integer n => Text.decimal n.toInt
  | .float x =>
    if Binary64.isFinite x then Binary64.Layout.serialized.render x else ['n', 'u', 'l', 'l']

mutual

/-- Text of a document in front of `after`. -/
def printBefore (after : List Char) : Json → List Char
  | .null => 'n' :: 'u' :: 'l' :: 'l' :: after
  | .boolean true => 't' :: 'r' :: 'u' :: 'e' :: after
  | .boolean false => 'f' :: 'a' :: 'l' :: 's' :: 'e' :: after
  | .number n => numberText n ++ after
  | .string s => quotedBefore after s
  | .array items => '[' :: printItemsBefore (']' :: after) items
  | .object members => '\x7b' :: printMembersBefore ('\x7d' :: after) members

/-- Items with commas between them, in front of `after`. -/
def printItemsBefore (after : List Char) : List Json → List Char
  | [] => after
  | [j] => printBefore after j
  | j :: rest => printBefore (',' :: printItemsBefore after rest) j

def printMembersBefore (after : List Char) : List (String × Json) → List Char
  | [] => after
  | [(key, j)] => quotedBefore (':' :: printBefore after j) key
  | (key, j) :: rest =>
    quotedBefore (':' :: printBefore (',' :: printMembersBefore after rest) j) key

end

/-- Text of a document. -/
def print (j : Json) : List Char := printBefore [] j

end Provision.Json

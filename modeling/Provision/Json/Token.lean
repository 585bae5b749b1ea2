import Provision.Json.Numeral

/-!
Tokens of JSON texts. The lexer goes over a text one character at a time; its state says which token
it is in and what it has gathered of it, the latest character first.
-/

namespace Provision.Json

inductive Token where
  | openArray
  | closeArray
  | openObject
  | closeObject
  | comma
  | colon
  | null
  | boolean (b : Bool)
  | number (n : Number)
  | string (s : String)

namespace Token

/-- White space between tokens. -/
def isSpace (c : Char) : Bool := c == ' ' || c == '\t' || c == '\n' || c == '\r'

/-- Characters that a number may consist of. -/
def isNumeric (c : Char) : Bool :=
  Text.isDigit c || c == '-' || c == '+' || c == '.' || c == 'e' || c == 'E'

def isLetter (c : Char) : Bool := 'a' ≤ c && c ≤ 'z'

/-- The character that a backslash and one letter stand for. -/
def escaped? : Char → Option Char
  | '"' => some '"'
  | '\\' => some '\\'
  | '/' => some '/'
  | 'b' => some '\u0008'
  | 'f' => some '\u000c'
  | 'n' => some '\n'
  | 'r' => some '\r'
  | 't' => some '\t'
  | _ => none

/-- Where the lexer is. `high` is the first half of a surrogate pair, once one has been read. -/
inductive State where
  | between
  | number (text : List Char)
  | word (text : List Char)
  | string (text : List Char)
  | escape (text : List Char)
  | unit (text : List Char) (high : Option Nat) (value count : Nat)
  | secondEscape (text : List Char) (high : Nat)
  | secondUnit (text : List Char) (high : Nat)

def ofWord? : List Char → Option Token
  | ['n', 'u', 'l', 'l'] => some .null
  | ['t', 'r', 'u', 'e'] => some (.boolean true)
  | ['f', 'a', 'l', 's', 'e'] => some (.boolean false)
  | _ => none

/-- A character that belongs to no token begun before. -/
def start (c : Char) : Option (State × List Token) :=
  if isSpace c then some (.between, [])
  else match c with
    | '[' => some (.between, [.openArray])
    | ']' => some (.between, [.closeArray])
    | '\x7b' => some (.between, [.openObject])
    | '\x7d' => some (.between, [.closeObject])
    | ',' => some (.between, [.comma])
    | ':' => some (.between, [.colon])
    | '"' => some (.string [], [])
    | c =>
      if c = '-' ∨ Text.isDigit c then some (.number [c], [])
      else if isLetter c then some (.word [c], [])
      else none

/-- A complete 16-bit unit of an escape. A pair of surrogates makes one character, a surrogate on
its own none. -/
def endUnit (text : List Char) (high : Option Nat) (value : Nat) : Option State :=
  match high with
  | none =>
    if 0xd800 ≤ value ∧ value < 0xdc00 then some (.secondEscape text value)
    else if 0xdc00 ≤ value ∧ value < 0xe000 then none
    else some (.string (Char.ofNat value :: text))
  | some high =>
    if 0xdc00 ≤ value ∧ value < 0xe000 then
      some (.string (Char.ofNat (0x10000 + (high - 0xd800) * 0x400 + (value - 0xdc00)) :: text))
    else none

/-- One character: the next state and the tokens that are now complete. -/
def step (state : State) (c : Char) : Option (State × List Token) :=
  match state with
  | .between => start c
  | .number text =>
    if isNumeric c then some (.number (c :: text), [])
    else do
      let n ← Json.number? text.reverse
      let (next, tokens) ← start c
      return (next, .number n :: tokens)
  | .word text =>
    if isLetter c then some (.word (c :: text), [])
    else do
      let word ← ofWord? text.reverse
      let (next, tokens) ← start c
      return (next, word :: tokens)
  | .string text =>
    if c = '"' then some (.between, [.string (String.ofList text.reverse)])
    else if c = '\\' then some (.escape text, [])
    else if c.toNat < 0x20 then none
    else some (.string (c :: text), [])
  | .escape text =>
    if c = 'u' then some (.unit text none 0 0, [])
    else (escaped? c).map fun d => (.string (d :: text), [])
  | .unit text high value count => do
    let digit ← Text.hexValue? c
    let value := value * 16 + digit
    if count = 3 then return (← endUnit text high value, [])
    else return (.unit text high value (count + 1), [])
  | .secondEscape text high => if c = '\\' then some (.secondUnit text high, []) else none
  | .secondUnit text high => if c = 'u' then some (.unit text (some high) 0 0, []) else none

/-- The end of the text: a number or a word may end there, a string may not. -/
def finish : State → Option (List Token)
  | .between => some []
  | .number text => (Json.number? text.reverse).map fun n => [.number n]
  | .word text => (ofWord? text.reverse).map fun t => [t]
  | _ => none

/-- The tokens of the rest of a text. -/
def lexFrom (state : State) : List Char → Option (List Token)
  | [] => finish state
  | c :: rest => do
    let (next, tokens) ← step state c
    let more ← lexFrom next rest
    return tokens ++ more

def lex (text : List Char) : Option (List Token) := lexFrom .between text

end Token

end Provision.Json

import Provision.Toml.Basic

/-!
Quoted strings of TOML. There are four kinds: between double quotes with escapes or between single
quotes without, and on one line between single marks or over several lines between triple ones.
-/

namespace Provision.Toml

/-- Characters that a string or a comment may hold as they are. -/
def isPrintable (c : Char) : Bool := c == '\t' || (0x20 ≤ c.toNat && c.toNat ≠ 0x7f)

def isSpace (c : Char) : Bool := c == ' ' || c == '\t'

/-- What follows a newline. -/
def newline? : List Char → Option (List Char)
  | '\n' :: rest => some rest
  | '\r' :: '\n' :: rest => some rest
  | _ => none

namespace Quoted

/-- The kind of a string. -/
structure Style where
  mark : Char
  multiline : Bool

def Style.escapes (s : Style) : Bool := s.mark == '"'

/-- What has been read last: marks that may close the string, a backslash, part of an escape, a
backslash at the end of a line, or half of a newline. -/
inductive Mode where
  | plain
  | marks (count : Nat)
  | escape
  | code (value left : Nat)
  | lineEnd
  | folding
  | carriage (folded : Bool)

inductive Step where
  | fail
  | next (text : List Char) (mode : Mode)
  | close (text : List Char)
  | closeBefore (text : List Char)

def escaped? : Char → Option Char
  | '"' => some '"'
  | '\\' => some '\\'
  | 'b' => some '\u0008'
  | 'f' => some '\u000c'
  | 'n' => some '\n'
  | 'r' => some '\r'
  | 't' => some '\t'
  | _ => none

/-- A character with nothing pending before it; `text` is what has been read, latest first. -/
def plain (style : Style) (text : List Char) (c : Char) : Step :=
  if c = style.mark then
    if style.multiline then .next text (.marks 1) else .close text
  else if c = '\\' ∧ style.escapes then .next text .escape
  else if isPrintable c then .next (c :: text) .plain
  else if style.multiline ∧ c = '\n' then .next ('\n' :: text) .plain
  else if style.multiline ∧ c = '\r' then .next text (.carriage false)
  else .fail

/-- Two marks at most belong to the text in front of the three that close it. -/
def step (style : Style) (text : List Char) (mode : Mode) (c : Char) : Step :=
  match mode with
  | .plain => plain style text c
  | .marks count =>
    if c = style.mark then
      if count = 4 then .close (style.mark :: style.mark :: text)
      else .next text (.marks (count + 1))
    else if 3 ≤ count then .closeBefore (List.replicate (count - 3) style.mark ++ text)
    else plain style (List.replicate count style.mark ++ text) c
  | .escape =>
    match escaped? c with
    | some d => .next (d :: text) .plain
    | none =>
      if c = 'u' then .next text (.code 0 4)
      else if c = 'U' then .next text (.code 0 8)
      else if !style.multiline then .fail
      else if isSpace c then .next text .lineEnd
      else if c = '\n' then .next text .folding
      else if c = '\r' then .next text (.carriage true)
      else .fail
  | .code value left =>
    match Text.hexValue? c with
    | none => .fail
    | some digit =>
      let value := value * 16 + digit
      if 1 < left then .next text (.code value (left - 1))
      else if h : value.isValidChar then .next (Char.ofNatAux value h :: text) .plain
      else .fail
  | .lineEnd =>
    if isSpace c then .next text .lineEnd
    else if c = '\n' then .next text .folding
    else if c = '\r' then .next text (.carriage true)
    else .fail
  | .folding =>
    if isSpace c ∨ c = '\n' then .next text .folding
    else if c = '\r' then .next text (.carriage true)
    else plain style text c
  | .carriage folded =>
    if c ≠ '\n' then .fail
    else if folded then .next text .folding
    else .next ('\n' :: text) .plain

/-- Reads up to the end of a string that has been opened. -/
def run (style : Style) (text : List Char) (mode : Mode) :
    List Char → Option (String × List Char)
  | [] =>
    match mode with
    | .marks count =>
      if 3 ≤ count then
        let whole := List.replicate (count - 3) style.mark ++ text
        some (String.ofList whole.reverse, [])
      else none
    | _ => none
  | c :: rest =>
    match step style text mode c with
    | .fail => none
    | .next text mode => run style text mode rest
    | .close text => some (String.ofList text.reverse, rest)
    | .closeBefore text => some (String.ofList text.reverse, c :: rest)

/-- A string on one line, from after its opening mark. -/
def single? (mark : Char) (cs : List Char) : Option (String × List Char) :=
  run ⟨mark, false⟩ [] .plain cs

/-- A string of any kind that opens with this mark; `cs` begins after it. A newline right after
three opening marks is no part of the string. -/
def any? (mark : Char) (cs : List Char) : Option (String × List Char) :=
  match cs with
  | a :: b :: rest =>
    if a = mark ∧ b = mark then run ⟨mark, true⟩ [] .plain ((newline? rest).getD rest)
    else single? mark cs
  | cs => single? mark cs

end Quoted

end Provision.Toml

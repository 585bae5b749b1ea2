/-!
Terminal text: styles and other controls among the characters, and what is left of a text where it
is shown without them. Controls are told apart as ECMA-48 lays down: an escape character begins a
sequence, and what follows it tells where the sequence ends.
-/

namespace Provision.Text.Terminal

/-- Text in a style, which is named by its number. -/
def styled (style : String) (text : String) : String :=
  "\x1b[" ++ style ++ "m" ++ text ++ "\x1b[0m"

/-- Where a reader of controls stands. -/
inductive Mode where
  /-- Outside of all sequences. -/
  | ground
  /-- Behind an escape character. -/
  | escape
  /-- In an escape sequence with further marks. -/
  | marks
  /-- In a control sequence. -/
  | control
  /-- In a command to the operating system. -/
  | command
  /-- In front of the body of a device control string. -/
  | entry
  | parameter
  | intermediate
  /-- In the body of a device control string, or in a string that is not shown at all. -/
  | body
  deriving Repr, DecidableEq

/-- The blank controls, which are shown even inside most sequences. -/
def isBlankControl (c : Char) : Bool := c == '\t' || c == '\n' || c == '\x0c' || c == '\r'

def isControl (c : Char) : Bool := c.toNat < 0x20

/-- Characters from a space to a slash. -/
def isMark (c : Char) : Bool := 0x20 ≤ c.toNat && c.toNat ≤ 0x2f

/-- Characters that end a control sequence. -/
def isFinal (c : Char) : Bool := 0x40 ≤ c.toNat && c.toNat ≤ 0x7e

/-- Characters that end an escape sequence. -/
def isEscapeFinal (c : Char) : Bool := 0x30 ≤ c.toNat && c.toNat ≤ 0x7e

/-- One of the bytes of the UTF-8 form behind the first is 9C, the end of a string. -/
def holdsStringEnd (c : Char) : Bool :=
  let n := c.toNat
  (0x80 ≤ n && n % 64 == 0x1c) || (0x800 ≤ n && n / 64 % 64 == 0x1c) ||
    (0x10000 ≤ n && n / 4096 % 64 == 0x1c)

/-- The mode behind an escape character and one more character. -/
def afterEscape (c : Char) : Mode :=
  match c with
  | '[' => .control
  | ']' => .command
  | 'P' => .entry
  | 'X' | '^' | '_' => .body
  | _ =>
    if isMark c then .marks
    else if isEscapeFinal c then .ground
    else .escape

/-- The mode behind the next character of a device control string that is before its body. -/
def afterEntry (mode : Mode) (c : Char) : Mode :=
  if isMark c then .intermediate
  else
    match mode with
    | .intermediate => if isEscapeFinal c then .body else mode
    | _ =>
      if isFinal c then .body
      else if isEscapeFinal c then
        if mode = .parameter ∧ '<' ≤ c then .body else .parameter
      else mode

/-- The mode behind the next character, and whether that character is shown. -/
def follow (mode : Mode) (c : Char) : Mode × Bool :=
  if c = '\x18' ∨ c = '\x1a' then (.ground, false)
  else if c = '\x1b' then (.escape, false)
  else
    match mode with
    | .ground => (mode, isBlankControl c || !isControl c && c != '\x7f')
    | .escape => if isControl c then (mode, isBlankControl c) else (afterEscape c, false)
    | .marks =>
      if isControl c then (mode, isBlankControl c)
      else (if isEscapeFinal c then .ground else mode, false)
    | .control =>
      if isControl c then (mode, isBlankControl c)
      else (if isFinal c then .ground else mode, false)
    | .command => (if c = '\x07' then .ground else mode, false)
    | .entry | .parameter | .intermediate => (afterEntry mode c, false)
    | .body => (if holdsStringEnd c then .ground else mode, false)

/-- The shown characters of a text. A character that follows a shown one is shown if it is outside
of sequences, wherever the reader stands: a blank control thus breaks a sequence up. What is not
shown leads on from where the reader stood, and a character beyond ASCII ends every sequence. -/
def shownFrom (mode : Mode) (afterShown : Bool) : List Char → List Char
  | [] => []
  | c :: rest =>
    if (follow (if afterShown then .ground else mode) c).2 then
      c :: shownFrom (if c.toNat < 0x80 then mode else .ground) true rest
    else shownFrom (follow mode c).1 false rest

/-- A text without the controls in it. -/
def plain (text : String) : String := String.ofList (shownFrom .ground false text.toList)

end Provision.Text.Terminal

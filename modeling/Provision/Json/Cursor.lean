import Provision.Json.Fault
import Provision.Json.Reader

/-!
Going through the bytes of a JSON text from value to value, up to the first fault. A fault is placed
behind the bytes that have been taken, or behind the next byte if that one is at fault and was only
looked at.
-/

namespace Provision.Json

/-- A place in a text: the number of bytes before it, and those behind it. -/
structure Cursor where
  index : Nat
  rest : List UInt8

namespace Cursor

def byte (c : Char) : UInt8 := c.toUInt8

/-- Reports a fault of what has been taken. -/
def fail {α : Type} (c : Cursor) (fault : Fault) : Except Stop α := .error ⟨fault, c.index⟩

/-- Reports a fault of what comes next. -/
def failNext {α : Type} (c : Cursor) (fault : Fault) : Except Stop α :=
  .error ⟨fault, if c.rest.isEmpty then c.index else c.index + 1⟩

/-- Takes one byte. -/
def next (c : Cursor) : Cursor := ⟨c.index + 1, c.rest.tail⟩

/-- Passes over bytes of a class. -/
def skipWhile (c : Cursor) (p : UInt8 → Bool) : Cursor :=
  ⟨c.index + (c.rest.takeWhile p).length, c.rest.dropWhile p⟩

def isSpaceByte (b : UInt8) : Bool := b == 0x20 || b == 0x09 || b == 0x0a || b == 0x0d

/-- Passes over white space. -/
def skip (c : Cursor) : Cursor := c.skipWhile isSpaceByte

def isDigitByte (b : UInt8) : Bool := 0x30 ≤ b && b ≤ 0x39

def skipDigits (c : Cursor) : Cursor := c.skipWhile isDigitByte

/-- Whether the next byte is this character. -/
def sees (c : Cursor) (x : Char) : Bool := c.rest.head? == some (byte x)

/-- The text between two places. -/
def textUpTo (c stop : Cursor) : Option String :=
  String.fromUTF8? ⟨(c.rest.take (stop.index - c.index)).toArray⟩

/-- The document between two places. -/
def documentUpTo (c stop : Cursor) : Option Json :=
  (c.textUpTo stop).bind fun text => Json.read? text.toList

/-- Takes the letters of a word. -/
def word (c : Cursor) : List Char → Except Stop Cursor
  | [] => .ok c
  | x :: more =>
    if c.rest.isEmpty then c.fail .endInValue
    else if c.sees x then c.next.word more
    else c.next.fail .badWord

/-- Takes the power of ten of a number, if there is one. -/
def exponent (c : Cursor) : Except Stop Cursor :=
  if c.sees 'e' || c.sees 'E' then
    let c := c.next
    let c := if c.sees '+' || c.sees '-' then c.next else c
    match c.rest with
    | [] => c.fail .endInValue
    | b :: _ => if isDigitByte b then .ok c.skipDigits else c.next.fail .badNumber
  else .ok c

/-- Takes the digits behind a point, if there is one, and a power of ten. -/
def fraction (c : Cursor) : Except Stop Cursor :=
  if c.sees '.' then
    let c := c.next
    match c.rest with
    | [] => c.failNext .endInValue
    | b :: _ => if isDigitByte b then c.skipDigits.exponent else c.failNext .badNumber
  else c.exponent

/-- Takes a number without its sign. No zero stands in front of another digit. -/
def unsigned (c : Cursor) : Except Stop Cursor :=
  match c.rest with
  | [] => c.fail .endInValue
  | b :: more =>
    if b = 0x30 then
      if more.head?.any isDigitByte then c.next.failNext .badNumber else c.next.fraction
    else if isDigitByte b then c.skipDigits.fraction
    else c.next.fail .badNumber

/-- Takes a number, which must not be beyond the range of doubles. -/
def number (c : Cursor) : Except Stop Cursor := do
  let stop ← (if c.sees '-' then c.next else c).unsigned
  if (c.documentUpTo stop).isSome then return stop else stop.fail .numberTooLarge

/-- Takes the four digits of an escape and gives their value. -/
def unit (c : Cursor) : Except Stop (Nat × Cursor) :=
  match c.rest with
  | a :: b :: d :: e :: rest =>
    let stop : Cursor := ⟨c.index + 4, rest⟩
    match [a, b, d, e].mapM fun x => Text.hexValue? (Char.ofNat x.toNat) with
    | some digits => .ok (digits.foldl (fun n d => n * 16 + d) 0, stop)
    | none => stop.fail .badEscape
  | rest => (Cursor.mk (c.index + rest.length) []).fail .endInString

/-- Takes a character that has to come next in a pair of surrogates. -/
def inPair (c : Cursor) (x : Char) : Except Stop Cursor :=
  if c.rest.isEmpty then c.fail .endInString
  else if c.sees x then .ok c.next
  else c.next.fail .unpairedSurrogate

def isHigh (n : Nat) : Bool := 0xd800 ≤ n && n < 0xdc00

def isLow (n : Nat) : Bool := 0xdc00 ≤ n && n < 0xe000

/-- Takes a unit, and a second one behind the first half of a pair. -/
def units (c : Cursor) : Except Stop Cursor := do
  let (n, c) ← c.unit
  if isLow n then c.fail .loneSurrogate
  else if isHigh n then
    let c ← (← c.inPair '\\').inPair 'u'
    let (m, c) ← c.unit
    if isLow m then return c else c.fail .loneSurrogate
  else return c

/-- Takes what follows a backslash. -/
def escape (c : Cursor) : Except Stop Cursor :=
  match c.rest with
  | [] => c.fail .endInString
  | b :: _ =>
    if b = byte 'u' then c.next.units
    else if (Token.escaped? (Char.ofNat b.toNat)).isSome then .ok c.next
    else c.next.fail .badEscape

/-- Takes a string behind its opening quote. -/
def string : Nat → Cursor → Except Stop Cursor
  | 0, c => c.fail .endInString
  | fuel + 1, c =>
    match c.rest with
    | [] => c.fail .endInString
    | b :: _ =>
      if b = byte '"' then .ok c.next
      else if b = byte '\\' then do string fuel (← c.next.escape)
      else if b < 0x20 then c.next.fail .controlInString
      else string fuel c.next

/-- Takes a string with its quotes; `fuel` is at least the number of bytes that are left. -/
def quoted (c : Cursor) (fuel : Nat) : Except Stop Cursor := string fuel c.next

/-- Takes a value that is no container, and which the next byte begins. -/
def scalar (c : Cursor) (fuel : Nat) : Except Stop Cursor :=
  if c.sees 'n' then c.word ['n', 'u', 'l', 'l']
  else if c.sees 't' then c.word ['t', 'r', 'u', 'e']
  else if c.sees 'f' then c.word ['f', 'a', 'l', 's', 'e']
  else if c.sees '"' then c.quoted fuel
  else if c.sees '-' || c.rest.head?.any isDigitByte then c.number
  else c.failNext .noValue

/-- Takes the colon behind a key. -/
def colon (c : Cursor) : Except Stop Cursor :=
  let c := c.skip
  if c.rest.isEmpty then c.failNext .endInObject
  else if c.sees ':' then .ok c.next
  else c.failNext .noColon

/-- Goes to the next item of an array, if there is one, else behind its end. -/
def nextItem (isFirst : Bool) (c : Cursor) : Except Stop (Bool × Cursor) :=
  let c := c.skip
  if c.rest.isEmpty then c.failNext .endInList
  else if c.sees ']' then .ok (false, c.next)
  else if isFirst then .ok (true, c)
  else if c.sees ',' then
    let c := c.next.skip
    if c.rest.isEmpty then c.failNext .endInValue
    else if c.sees ']' then c.failNext .trailingComma
    else .ok (true, c)
  else c.failNext .noListEnd

/-- Goes to the next key of an object, if there is one, else behind its end. -/
def nextKey (isFirst : Bool) (c : Cursor) : Except Stop (Bool × Cursor) :=
  let c := c.skip
  if c.rest.isEmpty then c.failNext .endInObject
  else if c.sees '\x7d' then .ok (false, c.next)
  else if isFirst then if c.sees '"' then .ok (true, c) else c.failNext .keyNotString
  else if c.sees ',' then
    let c := c.next.skip
    if c.rest.isEmpty then c.failNext .endInValue
    else if c.sees '"' then .ok (true, c)
    else if c.sees '\x7d' then c.failNext .trailingComma
    else c.failNext .keyNotString
  else c.failNext .noObjectEnd

mutual

/-- Takes a value; `room` is how many containers it may nest. At one place there are no more than
three calls. -/
def value : Nat → Nat → Cursor → Except Stop Cursor
  | 0, _, c => c.fail .tooDeep
  | fuel + 1, room, c =>
    let c := c.skip
    if c.rest.isEmpty then c.failNext .endInValue
    else if c.sees '[' then
      if room = 0 then c.failNext .tooDeep else items fuel (room - 1) true c.next
    else if c.sees '\x7b' then
      if room = 0 then c.failNext .tooDeep else members fuel (room - 1) true c.next
    else c.scalar fuel

/-- Takes the items of an array and its end. -/
def items : Nat → Nat → Bool → Cursor → Except Stop Cursor
  | 0, _, _, c => c.fail .tooDeep
  | fuel + 1, room, isFirst, c => do
    match ← c.nextItem isFirst with
    | (false, c) => return c
    | (true, c) => items fuel room false (← value fuel room c)

/-- Takes the members of an object and its end. -/
def members : Nat → Nat → Bool → Cursor → Except Stop Cursor
  | 0, _, _, c => c.fail .tooDeep
  | fuel + 1, room, isFirst, c => do
    match ← c.nextKey isFirst with
    | (false, c) => return c
    | (true, c) => members fuel room false (← value fuel room (← (← c.quoted fuel).colon))

end

/-- Enough for the calls of `value` on what is left. -/
def fuel (c : Cursor) : Nat := 3 * c.rest.length + 3

end Cursor

end Provision.Json

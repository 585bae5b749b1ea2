import Provision.Text.Blank
import Provision.Text.Digits
import Provision.Text.Split

/-!
Times of day to the second, their text, and the reading of them: up to three numbers with colons
between, where a missing minute or second is zero.
-/

namespace Provision

structure TimeOfDay where
  hour : Fin 24
  minute : Fin 60
  second : Fin 60
  deriving Repr, DecidableEq

namespace TimeOfDay

def ofParts? (hour minute second : Nat) : Option TimeOfDay :=
  if h : hour < 24 ∧ minute < 60 ∧ second < 60 then
    some ⟨⟨hour, h.1⟩, ⟨minute, h.2.1⟩, ⟨second, h.2.2⟩⟩
  else none

/-- Seconds since midnight. -/
def seconds (t : TimeOfDay) : Nat := t.hour * 3600 + t.minute * 60 + t.second

/-- The time this many seconds after a midnight. -/
def ofSeconds (n : Nat) : TimeOfDay :=
  ⟨Fin.ofNat 24 (n / 3600), Fin.ofNat 60 (n / 60), Fin.ofNat 60 n⟩

/-- Order of two times within a day. -/
def compare (a b : TimeOfDay) : Ordering := Ord.compare a.seconds b.seconds

def chars (t : TimeOfDay) : List Char :=
  Text.paddedDigits 2 t.hour ++ ':' :: (Text.paddedDigits 2 t.minute ++
    ':' :: Text.paddedDigits 2 t.second)

/-- Text as `HH:MM:SS`. -/
def text (t : TimeOfDay) : String := String.ofList t.chars

/-- Why a text is no time of day. -/
inductive Fault where
  | tooManyComponents (text : List Char)
  | notATime (text : List Char)
  | outOfRange (component : List Char)
  | hour (n : Nat)
  | minute (n : Nat)
  | second (n : Nat)
  deriving Repr, DecidableEq

def Fault.message : Fault → String
  | .tooManyComponents text => "'" ++ String.ofList text ++ "' has too many components"
  | .notATime text => "'" ++ String.ofList text ++ "' is not a time of day"
  | .outOfRange component => "'" ++ String.ofList component ++ "' is out of range"
  | .hour n => "hour " ++ String.ofList (Text.digits n) ++ " must be 0-23"
  | .minute n => "minute " ++ String.ofList (Text.digits n) ++ " must be 0-59"
  | .second n => "second " ++ String.ofList (Text.digits n) ++ " must be 0-59"

/-- The numbers of the components, each below 256. The first bad component is reported. -/
def numbers (text : List Char) : List (List Char) → Except Fault (List Nat)
  | [] => .ok []
  | component :: rest =>
    if !Text.isDigits component then .error (.notATime text)
    else if 256 ≤ Text.ofDigits component then .error (.outOfRange component)
    else do
      let ns ← numbers text rest
      return Text.ofDigits component :: ns

/-- Reads all of a trimmed text. -/
def readTrimmed (text : List Char) : Except Fault TimeOfDay :=
  let components := Text.splitOn ':' text
  if 3 < components.length then .error (.tooManyComponents text)
  else do
    let ns ← numbers text components
    let hour := ns.getD 0 0
    let minute := ns.getD 1 0
    let second := ns.getD 2 0
    if 24 ≤ hour then .error (.hour hour)
    else if 60 ≤ minute then .error (.minute minute)
    else if 60 ≤ second then .error (.second second)
    else
      match ofParts? hour minute second with
      | some t => .ok t
      | none => .error (.notATime text)

/-- Reads a text with blanks around it. -/
def read (text : List Char) : Except Fault TimeOfDay := readTrimmed (Text.trim text)

end TimeOfDay

end Provision

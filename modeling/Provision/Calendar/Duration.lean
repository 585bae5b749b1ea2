import Provision.Text.Digits

/-!
Text of durations in whole seconds: the largest unit that is not zero and the ones below it, but no
seconds beside days.
-/

namespace Provision.Duration

def part (n : Nat) (unit : Char) : List Char := Text.digits n ++ [unit]

def chars (seconds : Nat) : List Char :=
  let d := seconds / 86400
  let h := seconds % 86400 / 3600
  let m := seconds % 3600 / 60
  let s := seconds % 60
  if 0 < d then part d 'd' ++ ' ' :: (part h 'h' ++ ' ' :: part m 'm')
  else if 0 < h then part h 'h' ++ ' ' :: (part m 'm' ++ ' ' :: part s 's')
  else if 0 < m then part m 'm' ++ ' ' :: part s 's'
  else part s 's'

def text (seconds : Nat) : String := String.ofList (chars seconds)

end Provision.Duration

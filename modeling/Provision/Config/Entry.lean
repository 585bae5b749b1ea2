import Provision.Schedule.Book

/-!
Configurations as they are written: a version, settings, and one entry for each schedule. What an
entry says of windows and days is a token or a list of tokens, and a token is a text or a number.
-/

namespace Provision.Config

inductive Token where
  | text (s : String)
  | number (n : Int64)
  deriving Repr, DecidableEq

def Token.chars : Token → List Char
  | .text s => s.toList
  | .number n => Text.decimal n.toInt

def Token.toText (t : Token) : String := String.ofList t.chars

inductive Tokens where
  | one (token : Token)
  | many (tokens : List Token)
  deriving Repr, DecidableEq

def Tokens.toTexts : Tokens → List String
  | .one token => [token.toText]
  | .many tokens => tokens.map Token.toText

structure Entry where
  name : String
  period : Option Period
  periodMatch : Option PeriodMatch
  runs : Option Nat
  windows : Option Tokens
  weekdays : Option Tokens
  deriving Repr, DecidableEq

/-- The attributes that an entry gives, with those that it leaves out. -/
def Entry.attributes (e : Entry) : Attributes where
  period := e.period
  periodMatch := e.periodMatch.getD .distance
  runs := e.runs.getD 1
  windows := (e.windows.map Tokens.toTexts).getD []
  weekdays := (e.weekdays.map Tokens.toTexts).getD []

end Provision.Config

namespace Provision

structure Config where
  version : Nat
  settings : Settings
  entries : List Config.Entry
  deriving Repr, DecidableEq

end Provision

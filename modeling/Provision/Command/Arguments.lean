import Provision.Command.Due
import Provision.Command.Eval
import Provision.Command.Schedules
import Provision.Log.Filter
import Provision.Text.Terminal

/-!
Command lines. An option is written `--name=value`, `--name value` or by a letter; two dashes alone
end the options. Values are checked from left to right, before anything is found missing.
-/

namespace Provision.Command

/-- An option, with the name of its value if it takes one. -/
structure Switch where
  name : String
  letter : Option Char
  value : Option String

def options : List Switch := [
  ⟨"log-level", some 'l', some "LOG_LEVEL"⟩,
  ⟨"json-logs", none, none⟩,
  ⟨"config", some 'c', some "CONFIG"⟩,
  ⟨"previous", none, some "PREVIOUS"⟩,
  ⟨"now", none, some "NOW"⟩,
  ⟨"var", none, some "NAME=VALUE"⟩]

/-- An option as messages show it. -/
def Switch.shown (o : Switch) : String :=
  match o.value with
  | some v => "--" ++ o.name ++ " <" ++ v ++ ">"
  | none => "--" ++ o.name

inductive UsageError where
  | invalidValue (value shown message : String)
  | missingValue (shown : String)
  | repeated (shown : String)
  | unexpected (argument : String)
  | unrecognized (command : String)
  | missing (shown : String)
  | noCommand
  deriving Repr, DecidableEq

/-- The message, with what was wrong and what it was meant for in styles of their own. -/
def UsageError.message : UsageError → String
  | .invalidValue value shown message =>
    "invalid value '" ++ Text.Terminal.styled "33" value ++ "' for '" ++
      Text.Terminal.styled "1" shown ++ "': " ++ message
  | .missingValue shown => "a value is required for '" ++ shown ++ "' but none was supplied"
  | .repeated shown => "the argument '" ++ shown ++ "' cannot be used multiple times"
  | .unexpected argument => "unexpected argument '" ++ argument ++ "' found"
  | .unrecognized command => "unrecognized subcommand '" ++ command ++ "'"
  | .missing shown => "the following required arguments were not provided:\n  " ++ shown
  | .noCommand => "a subcommand is required"

/-- One piece of a command line. -/
inductive Piece where
  | option (o : Switch) (value : String)
  | word (text : String)

/-- An argument on its own: an option with its value, an option that waits for one, or a word. -/
inductive Shape where
  | complete (piece : Piece)
  | waiting (o : Switch)
  | unknown

def shapeOfLong (text : List Char) : Shape :=
  let (name, value) := match Text.splitFirst? '=' text with
    | some (name, value) => (String.ofList name, some (String.ofList value))
    | none => (String.ofList text, none)
  match options.find? (·.name == name) with
  | none => .unknown
  | some o =>
    match o.value, value with
    | some _, some v => .complete (.option o v)
    | some _, none => .waiting o
    | none, none => .complete (.option o "")
    | none, some _ => .unknown

def shapeOfShort (letter : Char) (text : List Char) : Shape :=
  match options.find? (·.letter == some letter) with
  | none => .unknown
  | some o =>
    match text with
    | [] => .waiting o
    | '=' :: value => .complete (.option o (String.ofList value))
    | value => .complete (.option o (String.ofList value))

def shapeOf (argument : String) : Shape :=
  match argument.toList with
  | '-' :: '-' :: text => shapeOfLong text
  | ['-'] => .complete (.word argument)
  | '-' :: letter :: text => shapeOfShort letter text
  | _ => .complete (.word argument)

/-- The pieces of a command line up to the first one that cannot be understood, and what is wrong
with that. `waiting` is an option whose value comes next. -/
def pieces (waiting : Option Switch) : List String → List Piece × Option UsageError
  | [] =>
    match waiting with
    | some o => ([], some (.missingValue o.shown))
    | none => ([], none)
  | a :: rest =>
    match waiting with
    | some o =>
      let (ps, error) := pieces none rest
      (.option o a :: ps, error)
    | none =>
      if a = "--" then (rest.map .word, none)
      else
        match shapeOf a with
        | .unknown => ([], some (.unexpected a))
        | .waiting o => pieces (some o) rest
        | .complete piece =>
          let (ps, error) := pieces none rest
          (piece :: ps, error)

/-- Everything that a command line may set. -/
structure Chosen where
  words : List String := []
  logLevel : Option String := none
  config : Option String := none
  previous : Option Moment := none
  now : Option Moment := none
  bindings : List (String × Value) := []

def moment (zone : Zone) (o : Switch) (value : String) : Except UsageError Moment :=
  match Moment.read zone value with
  | .ok m => .ok m
  | .error fault => .error (.invalidValue value o.shown fault.message)

/-- Puts one piece into what has been set before. -/
def apply (zone : Zone) (s : Chosen) : Piece → Except UsageError Chosen
  | .word text => .ok { s with words := s.words ++ [text] }
  | .option o value =>
    match o.name with
    | "log-level" =>
      if s.logLevel.isSome then .error (.repeated o.shown)
      else .ok { s with logLevel := some value }
    | "json-logs" => .ok s
    | "config" =>
      if s.config.isSome then .error (.repeated o.shown)
      else .ok { s with config := some value }
    | "previous" =>
      if s.previous.isSome then .error (.repeated o.shown)
      else (moment zone o value).map fun m => { s with previous := some m }
    | "now" =>
      if s.now.isSome then .error (.repeated o.shown)
      else (moment zone o value).map fun m => { s with now := some m }
    | _ =>
      match readBinding value with
      | .ok binding => .ok { s with bindings := s.bindings ++ [binding] }
      | .error e => .error (.invalidValue value o.shown e.message)

/-- A command that can be run. -/
inductive Request where
  | due (config : Option String) (schedule : String) (previous now : Option Moment)
  | eval (path : String) (bindings : List (String × Value))
  | schedules (config : Option String)

def request (s : Chosen) : Except UsageError Request :=
  match s.words with
  | [] => .error .noCommand
  | "due" :: words =>
    match words with
    | [] => .error (.missing "<SCHEDULE>")
    | [schedule] => .ok (.due s.config schedule s.previous s.now)
    | _ :: extra :: _ => .error (.unexpected extra)
  | "eval" :: words =>
    match words with
    | [] => .error (.missing "<AST>")
    | [path] => .ok (.eval path s.bindings)
    | _ :: extra :: _ => .error (.unexpected extra)
  | "schedules" :: words =>
    match words with
    | [] => .ok (.schedules s.config)
    | extra :: _ => .error (.unexpected extra)
  | command :: _ => .error (.unrecognized command)

/-- A whole command line: the text of the log filter, and what to do. -/
structure Invocation where
  filter : String
  request : Request

def invocation (zone : Zone) (arguments : List String) : Except UsageError Invocation := do
  let (ps, error) := pieces none arguments
  let s ← ps.foldlM (apply zone) {}
  match error with
  | some e => .error e
  | none => return ⟨s.logLevel.getD "warn", ← request s⟩

/-- Runs a request. -/
def Request.stage (env : Environment) : Request → Stage (Nat × String)
  | .due config schedule previous now => Command.due env config schedule previous now
  | .eval path bindings => Command.eval env path bindings
  | .schedules config => Command.schedules env config

/-- A command line that cannot be run. The whole text loses its styles and with them the controls
that an argument brings along. -/
def usageOutcome (e : UsageError) : Outcome where
  exit := 2
  stderr := Text.Terminal.plain
    ("error: " ++ e.message ++ "\n\nFor more information, try '" ++
      Text.Terminal.styled "1" "--help" ++ "'.\n")

/-- What is done for a command line that can be run. Only the events that its filter admits are
kept, and what is wrong with the filter is said first. -/
def Invocation.outcome (env : Environment) (i : Invocation) : Outcome :=
  let outcome := (i.request.stage env).outcome
  let filter := LogFilter.ofText i.filter
  { outcome with
    notices := LogFilter.notices i.filter
    log := (Event.starting :: outcome.log).filter filter.admits }

/-- Runs a command line. -/
def run (env : Environment) (arguments : List String) : Outcome :=
  match invocation env.zone arguments with
  | .error e => usageOutcome e
  | .ok i => i.outcome env

/-- The files that a command line may read. -/
def paths (env : Environment) (arguments : List String) : List String :=
  match invocation env.zone arguments with
  | .error _ => []
  | .ok i =>
    match i.request with
    | .due config .. => [config.getD env.defaultConfig]
    | .eval path _ => [path]
    | .schedules config => [config.getD env.defaultConfig]

end Provision.Command

import Provision.Calendar.Reading
import Provision.Config.Path
import Provision.Log.Loading
import Provision.Text.Quoted

/-!
What a command works with and what comes of it. A command is a pure function of its environment: the
files it may read, the variables that are set, and the time.
-/

namespace Provision

structure Environment where
  /-- What is found under a path. -/
  file : String → FileState
  /-- Variables that are set. -/
  value? : String → Option String
  zone : Zone
  /-- The time on the wall. -/
  clock : Instant

structure Outcome where
  exit : Nat
  /-- Lines that go to the error stream before anything is done. -/
  notices : List String := []
  stdout : String := ""
  stderr : String := ""
  log : List Event := []

namespace Environment

def pathVariables (env : Environment) : Config.Path.Variables where
  config := env.value? "MARIONETTE_CONFIG"
  configHome := env.value? "XDG_CONFIG_HOME"
  home := env.value? "HOME"

/-- The configuration file that is used when none is named. -/
def defaultConfig (env : Environment) : String := Config.Path.default env.pathVariables

end Environment

namespace Command

/-- Lines of output, each ended by a newline. -/
def lines (ls : List String) : String := String.join (ls.map (· ++ "\n"))

/-- Text with every line after the first moved in. -/
def indented (margin : Nat) (text : String) : String :=
  let pad := String.ofList ('\n' :: List.replicate margin ' ')
  pad.intercalate ((Text.splitOn '\n' text.toList).map String.ofList)

/-- The message of a failed command, with what caused it. -/
def failureText (message : String) (causes : List String) : String :=
  match causes with
  | [] => "Error: " ++ message
  | [cause] => "Error: " ++ message ++ "\n\nCaused by:\n    " ++ indented 4 cause
  | causes =>
    let numbered := causes.mapIdx fun n cause =>
      "\n    " ++ String.ofList (Text.digits n) ++ ": " ++ indented 7 cause
    "Error: " ++ message ++ "\n\nCaused by:" ++ String.join numbered

def failure (message : String) (causes : List String) (log : List Event) : Outcome :=
  { exit := 1, stderr := failureText message causes ++ "\n", log }

/-- A stage of a command that either goes on with a value or ends it; events are gathered on the
way. -/
structure Stage (α : Type) where
  log : List Event
  result : Except (String × List String) α

def Stage.pure {α : Type} (a : α) : Stage α := ⟨[], .ok a⟩

def Stage.fail {α : Type} (message : String) (causes : List String) : Stage α :=
  ⟨[], .error (message, causes)⟩

def Stage.report (events : List Event) : Stage Unit := ⟨events, .ok ()⟩

def Stage.bind {α β : Type} (s : Stage α) (next : α → Stage β) : Stage β :=
  match s.result with
  | .error e => ⟨s.log, .error e⟩
  | .ok a =>
    let t := next a
    ⟨s.log ++ t.log, t.result⟩

instance : Monad Stage where
  pure := Stage.pure
  bind := Stage.bind

/-- The outcome of a command that has an exit code and a text to print if nothing failed. -/
def Stage.outcome (s : Stage (Nat × String)) : Outcome :=
  match s.result with
  | .error (message, causes) => failure message causes s.log
  | .ok (exit, stdout) => { exit, stdout, log := s.log }

/-- The book from a named file, or from the default one, which need not exist. -/
def loadBook (env : Environment) (config : Option String) : Stage ScheduleBook := do
  let path := config.getD env.defaultConfig
  let file := env.file path
  if config.isNone && !file.isPresent then
    Stage.report [.noConfigFile path]
    return ScheduleBook.new {}
  Stage.report (Config.loadEvents path file)
  match Config.load file with
  | .ok book => return book
  | .error e => Stage.fail ("Failed to load config from " ++ Text.quoted path) e.chain

end Command

end Provision

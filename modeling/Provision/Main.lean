import Provision.Command.Arguments
import Provision.Json.Printer
import Std.Time.DateTime.Timestamp

/-!
The program. `validate-config` as the first argument checks a configuration file; any other command
line is one of the commands on schedules and expressions.
-/

namespace Provision.Main

open Command

def readState (path : String) : IO FileState := do
  try
    return FileState.ofBytes (← IO.FS.readBinFile path)
  catch _ =>
    return .missing

/-- The contents of some files, as a look-up by path. -/
def readAll (paths : List String) : IO (String → FileState) := do
  let contents ← paths.mapM fun path => return (path, ← readState path)
  return fun path => (KeyedList.get? path contents).getD .missing

def variableNames : List String :=
  ["MARIONETTE_CONFIG", "XDG_CONFIG_HOME", "HOME", "MARIONETTE_MOCK_TIME"]

def readVariables : IO (String → Option String) := do
  let values ← variableNames.mapM fun name => return (name, ← IO.getEnv name)
  return fun name => (KeyedList.get? name values).bind id

def wallClock : IO Instant := do
  let now ← Std.Time.Timestamp.now
  let nanos := now.toNanosecondsSinceUnixEpoch.val
  return ⟨nanos / 1000000000, (nanos % 1000000000).toNat⟩

def environment : IO Environment := do
  return ⟨fun _ => .missing, ← readVariables, .eastern, ← wallClock⟩

def detailJson : Event.Detail → Json
  | .text s => .string s
  | .number n => .number (.integer (Int64.ofInt n))
  | .flag b => .boolean b

/-- One event as a line of JSON. -/
def eventLine (e : Event) : String :=
  let details := e.details.map fun (key, d) => (key, detailJson d)
  let fields := Json.object (("message", .string e.message) :: details)
  let object := Json.object
    [("level", .string e.level.name), ("fields", fields), ("target", .string e.target)]
  String.ofList object.print

def detailText : Event.Detail → String
  | .text s => s
  | .number n => Text.decimalText n
  | .flag b => if b then "true" else "false"

/-- One event as a line for a reader. -/
def eventText (e : Event) : String :=
  let details := e.details.map fun (key, d) => " " ++ key ++ "=" ++ detailText d
  e.level.name ++ " " ++ e.target ++ ": " ++ e.message ++ String.join details

/-- Writes an outcome out; `asJson` tells how events are written. -/
def finish (asJson : Bool) (outcome : Outcome) : IO UInt32 := do
  for notice in outcome.notices do
    IO.eprintln notice
  for e in outcome.log do
    IO.eprintln (if asJson then eventLine e else eventText e)
  IO.print outcome.stdout
  IO.eprint outcome.stderr
  return UInt32.ofNat outcome.exit

def validateFile (env : Environment) (path : Option String) : IO UInt32 := do
  let file ← readAll path.toList
  finish false (validate { env with file } path)

def runCommand (env : Environment) (arguments : List String) : IO UInt32 := do
  let file ← readAll (paths env arguments)
  finish (arguments.contains "--json-logs") (run { env with file } arguments)

end Provision.Main

open Provision Provision.Main in
def main (arguments : List String) : IO UInt32 := do
  let env ← environment
  match arguments with
  | "validate-config" :: rest => validateFile env rest.head?
  | arguments => runCommand env arguments

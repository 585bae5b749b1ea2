import Provision.Command.Basic

/-!
The commands that show schedules: one lists what a configuration registers, the other checks a
configuration file and sums it up.
-/

namespace Provision.Command

def schedules (env : Environment) (config : Option String) : Stage (Nat × String) := do
  let book ← loadBook env config
  let note :=
    if book.settings.ignoreSchedules then
      ["(ignore_schedules is set; every schedule is always due)"]
    else []
  return (0, lines (note ++ book.toList.map Schedule.text))

def validateUsage (env : Environment) : List String := [
  "Usage: validate-config [config-file]",
  "",
  "Validates a marionette schedule file.",
  "",
  "If no path is provided, uses: " ++ env.defaultConfig]

def countText (n : Nat) : String := String.ofList (Text.digits n)

def summary (book : ScheduleBook) : List String :=
  let note :=
    if book.settings.ignoreSchedules then
      ["  Note: ignore_schedules is set; every schedule is always due"]
    else []
  let listing :=
    if book.schedules.isEmpty then []
    else ["", "Schedules:"] ++ book.toList.map fun s => "  - " ++ s.text
  ["✓ Configuration is valid", "", "Summary:",
    "  Config version: " ++ countText Config.currentVersion,
    "  Schedules: " ++ countText book.size,
    "  Built-in schedules: " ++ (if book.settings.defaultSchedules then "true" else "false")] ++
    note ++ listing

def complaints : Config.Error → List String
  | .unreadable fault => ["Failed to read file: " ++ fault.message]
  | .malformed => ["TOML parse error:", "  " ++ Config.malformedMessage]
  | .invalid faults =>
    ("Validation errors (" ++ countText faults.length ++ "):") ::
      faults.map fun fault => "  - " ++ fault.message
  | .unsupportedVersion version =>
    ["Unsupported config version: " ++ countText version ++ " (expected " ++
      countText Config.currentVersion ++ ")"]

/-- Checks a configuration file. -/
def validate (env : Environment) (path : Option String) : Outcome :=
  match path with
  | none => { exit := 2, stderr := lines (validateUsage env) }
  | some path =>
    let file := env.file path
    if !file.isPresent then
      { exit := 1, stderr := lines ["Error: Configuration file not found: " ++ path] }
    else
      match Config.load file with
      | .ok book => { exit := 0, stdout := lines (summary book) }
      | .error e =>
        { exit := 1
          stderr := lines (["✗ Configuration validation failed", ""] ++ complaints e) }

end Provision.Command

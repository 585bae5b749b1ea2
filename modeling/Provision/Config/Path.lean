/-!
Where the configuration file is looked for. A variable that is set counts even when it is empty.
-/

namespace Provision.Config.Path

/-- The environment as far as paths depend on it. -/
structure Variables where
  config : Option String
  configHome : Option String
  home : Option String

/-- A name inside a directory. -/
def join (directory name : String) : String :=
  if directory.isEmpty || directory.toList.getLast? == some '/' then directory ++ name
  else directory ++ "/" ++ name

def directory (v : Variables) : String :=
  match v.configHome, v.home with
  | some configHome, _ => join configHome "marionette"
  | none, some home => join (join home ".config") "marionette"
  | none, none => join "/etc" "marionette"

/-- The file in the configuration directory. -/
def inDirectory (v : Variables) : String := join (directory v) "schedules.toml"

/-- The file used when none is named. -/
def default (v : Variables) : String :=
  match v.config with
  | some path => path
  | none => inDirectory v

end Provision.Config.Path

import Provision.Schedule.Report

/-!
Log events: what the program reports about its work beside its results. Each event has a level, the
part of the program that it comes from, a message and named details.
-/

namespace Provision

inductive Level where
  | trace
  | debug
  | info
  | warn
  | error
  deriving Repr, DecidableEq

namespace Level

def name : Level → String
  | trace => "TRACE"
  | debug => "DEBUG"
  | info => "INFO"
  | warn => "WARN"
  | error => "ERROR"

def rank : Level → Nat
  | trace => 0
  | debug => 1
  | info => 2
  | warn => 3
  | error => 4

end Level

inductive Event where
  | starting
  | noConfigFile (path : String)
  | loading (path : String)
  | registered (schedule : String)
  | replaced (schedule : String)
  | loaded (schedules : Nat) (ignoreSchedules : Bool)
  | ignored (schedule : String)
  | filtersEvaluated (schedule : String) (report : Report)
  | mockTimeEnabled (text : String) (offset : Int)
  | mockTimeIgnored (text : String) (error : String)
  | mockTimeInUse
  | unresolved (name : String)
  | readUnbound (name : String) (scope : Nat)
  | defined (scope : Nat) (name : String)
  deriving Repr, DecidableEq

namespace Event

/-- A detail of an event. -/
inductive Detail where
  | text (s : String)
  | number (n : Int)
  | flag (b : Bool)
  deriving Repr, DecidableEq

def level : Event → Level
  | starting => .debug
  | noConfigFile _ => .info
  | loading _ => .info
  | registered _ => .debug
  | replaced _ => .info
  | loaded .. => .info
  | ignored _ => .debug
  | filtersEvaluated .. => .debug
  | mockTimeEnabled .. => .info
  | mockTimeIgnored .. => .warn
  | mockTimeInUse => .warn
  | unresolved _ => .warn
  | readUnbound .. => .debug
  | defined .. => .trace

def target : Event → String
  | starting => "marionette"
  | noConfigFile _ => "marionette"
  | loading _ => "marionette_config"
  | registered _ => "marionette_config::policy"
  | replaced _ => "marionette_config::policy"
  | loaded .. => "marionette_config::policy"
  | ignored _ => "marionette_config::policy"
  | filtersEvaluated .. => "marionette_config::schedule"
  | mockTimeEnabled .. => "marionette_util::time"
  | mockTimeIgnored .. => "marionette_util::time"
  | mockTimeInUse => "marionette"
  | unresolved _ => "marionette"
  | readUnbound .. => "marionette_eval::eval"
  | defined .. => "marionette_eval::scope"

def message : Event → String
  | starting => "marionette starting"
  | noConfigFile _ => "No configuration file; using built-in schedules"
  | loading _ => "Loading schedule configuration"
  | registered _ => "Schedule registered"
  | replaced _ => "Schedule definition replaced"
  | loaded .. => "Schedule book loaded"
  | ignored _ => "Schedules ignored; treating as due"
  | filtersEvaluated .. => "Schedule filters evaluated"
  | mockTimeEnabled .. => "Mock time enabled"
  | mockTimeIgnored .. => "Ignoring invalid mock time"
  | mockTimeInUse => "MARIONETTE_MOCK_TIME is set; using mock time"
  | unresolved _ => "Variable is not defined; it evaluates to undef"
  | readUnbound .. => "Unresolved variable evaluates to undef"
  | defined .. => "Variable defined"

def details : Event → List (String × Detail)
  | starting => [("version", .text "0.1.0")]
  | noConfigFile path => [("config_path", .text path)]
  | loading path => [("path", .text path)]
  | registered schedule => [("schedule", .text schedule)]
  | replaced schedule => [("schedule", .text schedule)]
  | loaded schedules ignoreSchedules =>
    [("schedules", .number schedules), ("ignore_schedules", .flag ignoreSchedules)]
  | ignored schedule => [("schedule", .text schedule)]
  | filtersEvaluated schedule r =>
    [("schedule", .text schedule), ("period", .flag r.period), ("range", .flag r.window),
      ("weekday", .flag r.weekday)]
  | mockTimeEnabled text offset => [("mock_time", .text text), ("offset_secs", .number offset)]
  | mockTimeIgnored text error => [("mock_time", .text text), ("error", .text error)]
  | mockTimeInUse => []
  | unresolved name => [("variable", .text name)]
  | readUnbound name scope => [("variable", .text name), ("scope", .number scope)]
  | defined scope name => [("scope", .number scope), ("variable", .text name)]

/-- The names of the fields of an event, its message among them. -/
def fieldNames (e : Event) : List String := "message" :: e.details.map (·.1)

end Event

end Provision

import Provision.Config.Decode
import Provision.Config.Validate

/-!
From the contents of a configuration file to a book of schedules, and what can go wrong on the way.
-/

namespace Provision

/-- What is found under a path. -/
inductive FileState where
  | missing
  | notText
  | text (contents : String)
  deriving Repr, DecidableEq

namespace FileState

/-- A file with these bytes, which are a text if they are well-formed UTF-8. -/
def ofBytes (bytes : ByteArray) : FileState :=
  match String.fromUTF8? bytes with
  | some contents => .text contents
  | none => .notText

def isPresent : FileState → Bool
  | .missing => false
  | _ => true

/-- Why a file cannot be read as a text. -/
inductive Fault where
  | missing
  | notText
  deriving Repr, DecidableEq

def Fault.message : Fault → String
  | .missing => "No such file or directory (os error 2)"
  | .notText => "stream did not contain valid UTF-8"

def read : FileState → Except Fault String
  | .missing => .error .missing
  | .notText => .error .notText
  | .text contents => .ok contents

end FileState

namespace Config

inductive Error where
  | unreadable (fault : FileState.Fault)
  | malformed
  | invalid (faults : List Fault)
  | unsupportedVersion (version : Nat)
  deriving Repr, DecidableEq

/-- The version of configurations that is understood. -/
def currentVersion : Nat := 1

/-- Message for a text that is no configuration at all. -/
def malformedMessage : String := "TOML parse error: the text is not a configuration"

def Error.message : Error → String
  | .unreadable fault => "Failed to read config file: " ++ fault.message
  | .malformed => "Failed to parse TOML: " ++ malformedMessage
  | .invalid faults => "Validation failed: " ++ "; ".intercalate (faults.map Fault.message)
  | .unsupportedVersion version =>
    "Unsupported config version: " ++ String.ofList (Text.digits version)

/-- The message of an error and of what caused it in turn. -/
def Error.chain : Error → List String
  | .unreadable fault => [(Error.unreadable fault).message, fault.message]
  | .malformed => [Error.malformed.message, malformedMessage]
  | e => [e.message]

/-- A text as a configuration of the current version. -/
def readCurrent (text : String) : Except Error Config :=
  match read? text with
  | none => .error .malformed
  | some c =>
    if c.version = currentVersion then .ok c else .error (.unsupportedVersion c.version)

/-- The book that a text describes. -/
def parse (text : String) : Except Error ScheduleBook :=
  match readCurrent text with
  | .error e => .error e
  | .ok c =>
    match c.book with
    | .error faults => .error (.invalid faults)
    | .ok book => .ok book

/-- The book that a file describes. -/
def load (file : FileState) : Except Error ScheduleBook :=
  match file.read with
  | .error fault => .error (.unreadable fault)
  | .ok text => parse text

end Config

end Provision

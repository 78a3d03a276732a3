import Scanout.Text.Quoted

/-!
Faults: what can go wrong around the service, while it is configured and its log is set up. A fault
has a message and a chain of causes, each with the text of its own.
-/

namespace Scanout

inductive ConfigError where
  /-- The file is there but cannot be read as text. -/
  | unreadable (path cause : String)
  /-- The text is not a document of the right shape. -/
  | malformed
  /-- A value lies outside its domain. -/
  | invalid (reason : String)
  /-- A file that was asked for by name is not there. -/
  | missing (locations : List String)
  deriving DecidableEq, Repr, Inhabited

inductive LoggingError where
  | initialization (reason : String)
  | filter (reason : String)
  | output (cause : String)
  deriving DecidableEq, Repr, Inhabited

inductive Fault where
  | config (error : ConfigError)
  | logging (error : LoggingError)
  | filesystem (reason path cause : String)
  | io (cause : String)
  | invalidInput (reason : String)
  | internal (reason : String)
  deriving DecidableEq, Repr, Inhabited

namespace ConfigError

def message : ConfigError → String
  | unreadable path _ => s!"Failed to read configuration file from {Text.quoted path}"
  | malformed => "Failed to parse configuration file"
  | invalid reason => s!"Configuration validation failed: {reason}"
  | missing locations =>
      s!"Configuration file not found at expected locations: {Text.quotedList locations}"

def causes : ConfigError → List String
  | unreadable _ cause => [cause]
  | malformed | invalid _ | missing _ => []

end ConfigError

namespace LoggingError

def message : LoggingError → String
  | initialization reason => s!"Failed to initialize logging: {reason}"
  | filter reason => s!"Failed to set log filter: {reason}"
  | output cause => s!"Logging I/O error: {cause}"

def causes : LoggingError → List String
  | output cause => [cause]
  | initialization _ | filter _ => []

end LoggingError

namespace Fault

def message : Fault → String
  | config error => s!"Configuration Error: {error.message}"
  | logging error => s!"Logging Error: {error.message}"
  | filesystem reason path _ => s!"Filesystem Error: {reason} (Path: {Text.quoted path})"
  | io cause => s!"I/O Error: {cause}"
  | invalidInput reason => s!"Invalid Input: {reason}"
  | internal reason => s!"An unexpected internal error occurred: {reason}"

/-- The texts of what the fault came from, the nearest first. -/
def causes : Fault → List String
  | config error => error.message :: error.causes
  | logging error => error.message :: error.causes
  | filesystem _ _ cause | io cause => [cause]
  | invalidInput _ | internal _ => []

end Fault
end Scanout

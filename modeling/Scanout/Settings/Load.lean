import Scanout.Fault
import Scanout.Files.Tree
import Scanout.Settings.Overlay
import Scanout.Settings.Validation
import Scanout.Toml.Document

/-!
Loading of settings: from a text, from a file that is asked for by name, or from the place where the
service looks by itself.
-/

namespace Scanout.Settings

/-- Where settings are kept if the environment names no other file. -/
def usualPath : String := "/etc/novade/composer.toml"

/-- Settings whose values are checked, with a violation as the fault it is. -/
def checked (settings : Settings) : Except Fault Settings :=
  settings.validated.mapError fun violation => .config (.invalid violation.message)

/-- The settings of a document, before their values are checked. -/
def ofDocument? (text : String) : Option Settings := do ofTable? (← Toml.Table.ofText? text)

/-- Reads settings. A blank text has nothing to say about any of them. -/
def ofText (text : String) : Except Fault Settings := do
  if Text.isBlank text then
    ({} : Settings).checked
  else
    match ofDocument? text with
    | some settings => settings.checked
    | none => .error (.config .malformed)

def load (files : Files) (path : String) : Except Fault Settings :=
  match files.readText path with
  | .ok text => ofText text
  | .error .absent => .error (.config (.missing [path]))
  | .error reason => .error (.config (.unreadable path reason.message))

/-- Reads the settings in the file that the environment names, or else in the usual one. Without a
file nothing is said about any setting. -/
def find (files : Files) (named : Option String) : Except Fault Settings :=
  let path := (named.filter (· != "")).getD usualPath
  match files.readText path with
  | .ok text => ofText text
  | .error .absent => ({} : Settings).checked
  | .error reason => .error (.config (.unreadable path reason.message))

end Scanout.Settings

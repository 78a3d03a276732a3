import Scanout.Log.Level
import Scanout.Settings.Basic
import Scanout.Text.Blank
import Scanout.Text.LetterCase

/-!
Validation of settings. Level and format are taken in any case and kept in lower case. Of several
violations the first counts, in the order level, format, number of buffers, thread name.
-/

namespace Scanout

inductive Violation where
  | level (given : String)
  | format (given : String)
  | noBuffers
  | blankThreadName
  deriving DecidableEq, Repr, Inhabited

def Violation.message : Violation → String
  | level given =>
      s!"Invalid log level: '{given}'. Must be one of trace, debug, info, warn, error."
  | format given => s!"Invalid log format: '{given}'. Must be one of text, json."
  | noBuffers => "buffer_cache.max_imported_buffers must be greater than zero"
  | blankThreadName => "writeback.thread_name_prefix must not be empty"

namespace Settings

/-- The settings with level and format in lower case, if all values lie in their domains. -/
def validated (settings : Settings) : Except Violation Settings :=
  let level := Text.lower settings.logging.level
  let format := Text.lower settings.logging.format
  if (Log.Level.ofName? level).isNone then .error (.level settings.logging.level)
  else if (Log.Format.ofName? format).isNone then .error (.format settings.logging.format)
  else if settings.buffers.maxImportedBuffers = 0 then .error .noBuffers
  else if Text.isBlank settings.captures.threadName then .error .blankThreadName
  else .ok { settings with logging := { settings.logging with level, format } }

end Settings
end Scanout

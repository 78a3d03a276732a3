/-!
The settings of the service, with the values that hold where nothing else is said.
-/

namespace Scanout

structure LogSettings where
  level : String := "info"
  /-- Where lines are also written, besides the console. -/
  file : Option String := none
  format : String := "text"
  deriving DecidableEq, Repr, Inhabited

structure BufferSettings where
  initialClientTargetSlots : Nat := 0
  /-- The most references that may be outstanding at once. -/
  maxImportedBuffers : Nat := 4096
  deriving DecidableEq, Repr, Inhabited

structure CaptureSettings where
  /-- What the names of worker threads begin with. -/
  threadName : String := "novade-cwb"
  deriving DecidableEq, Repr, Inhabited

structure ClientSettings where
  /-- How long a new client waits for the one before it, in milliseconds. -/
  handoverTimeout : Nat := 1000
  deriving DecidableEq, Repr, Inhabited

structure Settings where
  logging : LogSettings := {}
  buffers : BufferSettings := {}
  captures : CaptureSettings := {}
  clients : ClientSettings := {}
  deriving DecidableEq, Repr, Inhabited

end Scanout

import Scanout.Action
import Scanout.Display.Registry

/-!
The state of a batch in execution, and the actions that work on it: the payloads written so far and
the number of the entry that errors belong to.
-/

namespace Scanout

structure Engine where
  /-- The number of the entry being executed. -/
  entry : Nat := 0
  writer : PayloadWriter := {}
  deriving DecidableEq, Repr, Inhabited

/-- What an engine does to the registry and to its own state. -/
abbrev EngineAction := StateT Engine (Action Registry)

namespace EngineAction

/-- Does something to the registry alone. -/
def lift {α : Type} (action : Action Registry α) : EngineAction α := liftM action

def call (call : DeviceCall) : EngineAction call.Reply := lift (Action.call call)

def registry : EngineAction Registry := lift get

def setRegistry (registry : Registry) : EngineAction Unit := lift (set registry)

def write (change : PayloadWriter → PayloadWriter) : EngineAction Unit :=
  modify fun engine => { engine with writer := change engine.writer }

/-- Writes an error for the current entry if something failed, and nothing otherwise. -/
def record (result : Except Status Unit) : EngineAction Unit :=
  match result with
  | .ok () => return ()
  | .error status =>
      modify fun engine =>
        { engine with writer := engine.writer.write (.error engine.entry status) }

/-- Changes the commit tracker of a display. One that was lost in the middle of a frame has
nothing to track. -/
def track (display : DisplayId) (change : CommitTracker → CommitTracker) : EngineAction Unit := do
  match (← registry).updateCommit display change with
  | .ok changed => setRegistry changed
  | .error _ => return ()

end EngineAction
end Scanout

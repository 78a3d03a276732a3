import Scanout.Action
import Scanout.Display.Registry

/-!
The buffer of a command, from the handle or slot that the command names to the slot it ends in. A
command that brings a handle has it imported first and stored after the device has been told; one
that names only a slot uses what the slot holds. Sideband streams are copied instead of imported.
-/

namespace Scanout

inductive ResolvedBuffer where
  /-- No handle came with the command. -/
  | empty
  /-- What the slot held, copied. -/
  | cached (content : Option NativeHandle)
  /-- A handle to be stored. Whoever has it owns its reference. -/
  | owned (handle : Handle)
  deriving DecidableEq, Repr

namespace ResolvedBuffer

def native : ResolvedBuffer → Option NativeHandle
  | empty => none
  | cached content => content
  | owned handle => some handle.native

/-- The handle that comes with its owner's duties. -/
def handle? : ResolvedBuffer → Option Handle
  | owned handle => some handle
  | empty | cached _ => none

end ResolvedBuffer

namespace Registry

/-- Does something that leaves handles to be let go. A failure leaves all as it was. -/
def change (operation : Registry → Except Status (Registry × List Handle)) :
    Action Registry (Except Status Unit) := do
  match operation (← get) with
  | .error status => return .error status
  | .ok (registry, released) =>
      set registry
      Action.release released
      return .ok ()

/-- Finds the buffer of a command. With `reuse` the slot's content is meant and the slot has to
exist; a handle is imported without a look at the slot. -/
def lookup (display : DisplayId) (kind : BufferKind) (slot : Nat) (reuse : Bool)
    (handle : Option NativeHandle) : Action Registry (Except Status ResolvedBuffer) := do
  if reuse then
    let content := (← get).content display kind slot
    return content.map fun held => .cached (held.map Handle.native)
  match kind, handle with
  | _, none => return .ok .empty
  | .sidebandStream _, some native => return .ok (.owned (.copying native))
  | _, some native =>
      match ← Action.ask (.importBuffer native) with
      | .ok () => return .ok (.owned (.owning native))
      | .error reason => return .error reason.status

/-- Stores the buffer of a command into its slot and lets go of what the slot held. Where the slot
does not exist, or was reused and so stays as it is, the buffer itself is let go. -/
def update (display : DisplayId) (kind : BufferKind) (slot : Nat) (reuse : Bool)
    (buffer : ResolvedBuffer) : Action Registry (Except Status Unit) := do
  if reuse then
    Action.release buffer.handle?.toList
    return .ok ()
  match (← get).store display kind slot buffer.handle? with
  | .ok (registry, held) =>
      set registry
      Action.release held.toList
      return .ok ()
  | .error status =>
      Action.release buffer.handle?.toList
      return .error status

end Registry
end Scanout

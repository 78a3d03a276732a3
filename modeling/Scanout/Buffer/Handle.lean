import Scanout.Buffer.Native

/-!
Handles with an owner. A handle lives in one place at a time: a slot, a queued capture or the hands
of whoever looked it up. Operations that overwrite or drop one return it, so that its reference can
be given back.
-/

namespace Scanout

/-- A buffer description that something holds, and whether a reference comes with it. -/
structure Handle where
  native : NativeHandle
  /-- A reference was imported and has to be freed. Copies carry none. -/
  imported : Bool
  deriving DecidableEq, Repr, Inhabited

namespace Handle

/-- The holder of a reference that was just imported. -/
def owning (native : NativeHandle) : Handle := ⟨native, true⟩

/-- A copy of the description, without a reference. -/
def copying (native : NativeHandle) : Handle := ⟨native, false⟩

def id (handle : Handle) : BufferId := handle.native.id

/-- The reference that the handle owns, as a list of none or one. -/
def references (handle : Handle) : List NativeHandle :=
  if handle.imported then [handle.native] else []

def display (handle : Handle) : String :=
  let numbers (values : List Int) := "[" ++ ", ".intercalate (values.map toString) ++ "]"
  s!"BufferHandle \x7b native: NativeHandle \x7b buffer_id: {handle.id.display}, fds: " ++
    s!"{numbers handle.native.fds}, ints: {numbers handle.native.ints} \x7d, imported: " ++
    s!"{handle.imported} \x7d"

end Handle

def referencesOf (handles : List Handle) : List NativeHandle := handles.flatMap Handle.references

end Scanout

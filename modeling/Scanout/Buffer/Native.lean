import Scanout.Id
import Scanout.Status

/-!
Buffers as clients name them, and the ways in which taking a reference to one can fail.
-/

namespace Scanout

/-- The plain description of a buffer: its identity, file descriptors and opaque numbers. Having
one does not keep the buffer alive. -/
structure NativeHandle where
  id : BufferId
  fds : List Int := []
  ints : List Int := []
  deriving DecidableEq, Repr, Inhabited

/-- A source of identities that were not given out before. It never gives out the anonymous one. -/
structure BufferIds where
  next : Nat := 1

namespace BufferIds

def take (ids : BufferIds) : BufferId × BufferIds := (⟨ids.next⟩, ⟨ids.next + 1⟩)

def takeMany (ids : BufferIds) : Nat → List BufferId
  | 0 => []
  | count + 1 => ids.take.1 :: ids.take.2.takeMany count

end BufferIds

/-- Why a buffer could not be imported or a slot not be used. -/
inductive BufferError where
  /-- The description cannot be one of a buffer. -/
  | invalidHandle (id : BufferId) (reason : String)
  /-- The importer refused the buffer. -/
  | importFailed (id : BufferId) (reason : String)
  /-- One more reference would exceed the limit. -/
  | capacityExceeded (limit : Nat)
  /-- The slot lies beyond the end of its cache. -/
  | slotOutOfRange (slot length : Nat)
  deriving DecidableEq, Repr, Inhabited

namespace BufferError

def message : BufferError → String
  | invalidHandle id reason => s!"Invalid native handle for buffer {id.display}: {reason}"
  | importFailed id reason => s!"Failed to import buffer {id.display}: {reason}"
  | capacityExceeded limit => s!"Too many imported buffers (limit {limit})"
  | slotOutOfRange slot length => s!"Slot {slot} out of range for cache of {length} slots"

/-- What a client is told: a slot is a parameter of the request, references are a resource. -/
def status : BufferError → Status
  | slotOutOfRange .. => .badParameter
  | invalidHandle .. | importFailed .. | capacityExceeded .. => .noResources

end BufferError
end Scanout

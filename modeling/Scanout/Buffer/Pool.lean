import Scanout.Buffer.Native

/-!
The reference counting importer. Each import of a handle adds a reference to its identity and each
free removes one, with an upper bound on the references outstanding over all identities. Buffers
without an identity share the anonymous one.
-/

namespace Scanout

/-- The references outstanding, per identity and in total. -/
structure Pool where
  capacity : Nat
  references : Table BufferId Nat := ∅
  live : Nat := 0

namespace Pool

def refCount (pool : Pool) (id : BufferId) : Nat := pool.references[id]?.getD 0

/-- Takes a reference. A negative descriptor is the first thing that is refused, a full pool the
second. -/
def importBuffer (pool : Pool) (handle : NativeHandle) : Except BufferError Pool :=
  match handle.fds.find? (· < 0) with
  | some fd => .error (.invalidHandle handle.id s!"negative file descriptor {fd}")
  | none =>
      if pool.capacity ≤ pool.live then
        .error (.capacityExceeded pool.capacity)
      else
        .ok { pool with
          references := pool.references.insert handle.id (pool.refCount handle.id + 1)
          live := pool.live + 1 }

/-- Gives a reference back. Freeing an identity with none outstanding changes nothing. -/
def freeBuffer (pool : Pool) (handle : NativeHandle) : Pool :=
  match pool.references[handle.id]? with
  | none => pool
  | some count =>
      { pool with
        references :=
          if count = 1 then pool.references.erase handle.id
          else pool.references.insert handle.id (count - 1)
        live := pool.live - 1 }

end Pool
end Scanout

import Scanout.Buffer.Handle

/-!
Slot caches: fixed arrays of places for one handle each. Lookups tell a slot that is empty from one
that does not exist. Storing and resizing return the handles they displaced, lowest slot first.
-/

namespace Scanout

structure SlotCache where
  slots : List (Option Handle) := []
  deriving DecidableEq, Repr, Inhabited

namespace SlotCache

def ofSize (count : Nat) : SlotCache := ⟨List.replicate count none⟩

def size (cache : SlotCache) : Nat := cache.slots.length

/-- What the cache holds, lowest slot first. -/
def handles (cache : SlotCache) : List Handle := cache.slots.filterMap fun slot => slot

def populated (cache : SlotCache) : Nat := cache.handles.length

def get (cache : SlotCache) (slot : Nat) : Except BufferError (Option Handle) :=
  match cache.slots[slot]? with
  | some content => .ok content
  | none => .error (.slotOutOfRange slot cache.size)

/-- Replaces the content of a slot that exists, and returns what it held. -/
def put (cache : SlotCache) (slot : Nat) (content : Option Handle) :
    Except BufferError (SlotCache × Option Handle) :=
  (cache.get slot).map fun held => (⟨cache.slots.set slot content⟩, held)

/-- Shrinks or grows to `count` slots. New slots are empty; the handles of the slots that fell away
are returned. -/
def resize (cache : SlotCache) (count : Nat) : SlotCache × List Handle :=
  (⟨cache.slots.take count ++ List.replicate (count - cache.size) none⟩,
    (cache.slots.drop count).filterMap fun slot => slot)

@[simp] theorem size_ofSize (count : Nat) : (ofSize count).size = count := by
  simp [ofSize, size]

@[simp] theorem size_resize (cache : SlotCache) (count : Nat) :
    (cache.resize count).1.size = count := by
  simp only [resize, size, List.length_append, List.length_take, List.length_replicate]
  omega

theorem size_put {cache after : SlotCache} {slot : Nat} {content held : Option Handle}
    (stored : cache.put slot content = .ok (after, held)) : after.size = cache.size := by
  unfold put at stored
  cases found : cache.get slot with
  | error reason => simp [found, Except.map] at stored
  | ok kept =>
      simp only [found, Except.map, Except.ok.injEq, Prod.mk.injEq] at stored
      rw [← stored.1]
      simp [size]

end SlotCache
end Scanout

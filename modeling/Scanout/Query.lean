import Scanout.Device

/-!
Lists of unknown length. A query is asked twice, for the number of entries and then to fill a room
of that size, and both answers may be off: the list can have changed in between, and a device can
claim to have written more or less than it did.
-/

namespace Scanout

/-- The room after the device has filled it: places that were not written keep the default. Only
the entries that the device says are there count, and no more than there is room for. -/
def Filled.entries {α : Type} [Inhabited α] (filled : Filled α) (room : Nat) : List α :=
  ((filled.written ++ List.replicate room default).take room).take filled.reported

theorem Filled.length_entries {α : Type} [Inhabited α] (filled : Filled α) (room : Nat) :
    (filled.entries room).length = min filled.reported room := by
  simp only [entries, List.length_take, List.length_append, List.length_replicate]
  omega

/-- Asks for a list in two calls. A count of zero is an empty list, without the second call. -/
def querySized {m : Type → Type} [Monad m] {ε α : Type} [Inhabited α] (count : m (Except ε Nat))
    (fill : Nat → m (Except ε (Filled α))) : m (Except ε (List α)) := do
  match ← count with
  | .error reason => return .error reason
  | .ok 0 => return .ok []
  | .ok room =>
      match ← fill room with
      | .error reason => return .error reason
      | .ok filled => return .ok (filled.entries room)

end Scanout

import Std.Data.ExtTreeMap

/-!
Identities. The device numbers displays and layers with signed words and the allocator numbers
buffers with unsigned ones; the service only compares and orders them. Each identity is ordered by
its number, and equal in that order only to itself, so it can key an ordered finite map.
-/

namespace Scanout

/-- Identifies a display. The device assigns it. -/
structure DisplayId where
  raw : Int
  deriving DecidableEq, Repr, Inhabited

/-- Identifies a layer. The device assigns it, once for the lifetime of the process. -/
structure LayerId where
  raw : Int
  deriving DecidableEq, Repr, Inhabited

structure BufferId where
  raw : Nat
  deriving DecidableEq, Repr, Inhabited

/-- Identifies a client of the service, counted from zero as clients are created. -/
structure ClientId where
  raw : Nat
  deriving DecidableEq, Repr, Inhabited

namespace DisplayId

instance : Ord DisplayId := ⟨compareOn raw⟩

instance : Std.TransOrd DisplayId := inferInstanceAs (Std.TransCmp (compareOn raw))

instance : Std.LawfulEqOrd DisplayId where
  eq_of_compare {first second} same := by
    have numbers : compare first.raw second.raw = .eq := same
    cases first; cases second
    exact congrArg mk (Std.compare_eq_iff_eq.mp numbers)

instance : ToString DisplayId := ⟨fun id => toString id.raw⟩

end DisplayId

namespace LayerId

instance : Ord LayerId := ⟨compareOn raw⟩

instance : Std.TransOrd LayerId := inferInstanceAs (Std.TransCmp (compareOn raw))

instance : Std.LawfulEqOrd LayerId where
  eq_of_compare {first second} same := by
    have numbers : compare first.raw second.raw = .eq := same
    cases first; cases second
    exact congrArg mk (Std.compare_eq_iff_eq.mp numbers)

instance : ToString LayerId := ⟨fun id => toString id.raw⟩

end LayerId

namespace BufferId

/-- The number that stands for a buffer without an identity. -/
def anonymous : BufferId := ⟨0⟩

def isAnonymous (id : BufferId) : Bool := id == anonymous

def display (id : BufferId) : String := s!"BufferId({id.raw})"

instance : Ord BufferId := ⟨compareOn raw⟩

instance : Std.TransOrd BufferId := inferInstanceAs (Std.TransCmp (compareOn raw))

instance : Std.LawfulEqOrd BufferId where
  eq_of_compare {first second} same := by
    have numbers : compare first.raw second.raw = .eq := same
    cases first; cases second
    exact congrArg mk (Std.compare_eq_iff_eq.mp numbers)

end BufferId

namespace ClientId

instance : Ord ClientId := ⟨compareOn raw⟩

instance : Std.TransOrd ClientId := inferInstanceAs (Std.TransCmp (compareOn raw))

instance : Std.LawfulEqOrd ClientId where
  eq_of_compare {first second} same := by
    have numbers : compare first.raw second.raw = .eq := same
    cases first; cases second
    exact congrArg mk (Std.compare_eq_iff_eq.mp numbers)

end ClientId

/-- A finite map listed by ascending key. -/
abbrev Table (κ : Type) [Ord κ] (α : Type) := Std.ExtTreeMap κ α

end Scanout

/-!
Sets of code points, as the Unicode standard gives them for its properties: a few hundred ranges,
each with a first and a last member.
-/

namespace Scanout.Text

/-- A set of code points by the places, in ascending order, where it begins and ends: the numbers at
even positions are the first of a range and those at odd positions the first after it. -/
structure CodePoints where
  boundaries : List Nat
  deriving Repr, Inhabited

namespace CodePoints

/-- Membership changes at every boundary that is passed. -/
def containsFrom (inside : Bool) (code : Nat) : List Nat → Bool
  | [] => inside
  | boundary :: rest => if code < boundary then inside else containsFrom (!inside) code rest

def contains (set : CodePoints) (char : Char) : Bool :=
  containsFrom false char.toNat set.boundaries

end CodePoints
end Scanout.Text

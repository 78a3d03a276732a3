/-!
Places in a text, counted in bytes of its UTF-8 form.
-/

namespace Scanout.Text

def byteCount : List Char → Nat
  | [] => 0
  | char :: chars => char.utf8Size + byteCount chars

/-- What stands between two places of a text, if neither is inside a character. -/
def between? (text : String) (start stop : Nat) : Option String :=
  String.fromUTF8? (text.toUTF8.extract start stop)

theorem byteCount_append (first second : List Char) :
    byteCount (first ++ second) = byteCount first + byteCount second := by
  induction first with
  | nil => simp [byteCount]
  | cons char chars ih => rw [List.cons_append, byteCount, byteCount, ih, Nat.add_assoc]

end Scanout.Text

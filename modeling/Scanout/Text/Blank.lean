import Scanout.Text.CodePoints

/-!
White space. A text is blank when it has nothing else in it.
-/

namespace Scanout.Text

/-- The code points with the property White_Space. -/
def whiteSpace : CodePoints where
  boundaries := [
    0x9, 0xe, 0x20, 0x21, 0x85, 0x86, 0xa0, 0xa1, 0x1680, 0x1681, 0x2000, 0x200b, 0x2028, 0x202a,
    0x202f, 0x2030, 0x205f, 0x2060, 0x3000, 0x3001]

def isBlank (text : String) : Bool := text.toList.all whiteSpace.contains

/-- A text without the white space at its ends. -/
def trimmed (text : List Char) : List Char :=
  ((text.dropWhile whiteSpace.contains).reverse.dropWhile whiteSpace.contains).reverse

theorem isBlank_iff {text : String} :
    isBlank text ↔ ∀ char ∈ text.toList, whiteSpace.contains char := by
  simp [isBlank]

theorem whiteSpace_contains_of_isWhitespace {char : Char} (blank : char.isWhitespace) :
    whiteSpace.contains char := by
  simp only [Char.isWhitespace, Bool.or_eq_true, decide_eq_true_eq] at blank
  rcases blank with ((rfl | rfl) | rfl) | rfl <;> decide

end Scanout.Text

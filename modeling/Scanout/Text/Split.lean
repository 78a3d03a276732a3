/-!
Splitting at a separator. A text with `n` separators has `n + 1` pieces, some of them perhaps empty.
-/

namespace Scanout.Text

def splitChars (separator : Char) : List Char → List (List Char)
  | [] => [[]]
  | char :: rest =>
      let pieces := splitChars separator rest
      if char = separator then [] :: pieces
      else (char :: pieces.headD []) :: pieces.tail

def split (separator : Char) (text : String) : List String :=
  (splitChars separator text.toList).map String.ofList

/-- A text up to the first line break: a line feed or the end, perhaps after a carriage return. -/
def firstLine (text : String) : String :=
  let line := text.toList.takeWhile (· != '\n')
  String.ofList (if line.getLast? = some '\r' then line.dropLast else line)

theorem length_splitChars (separator : Char) (text : List Char) :
    (splitChars separator text).length = text.count separator + 1 := by
  induction text with
  | nil => rfl
  | cons char rest ih =>
      by_cases same : char = separator <;> simp [splitChars, same, ih]

theorem splitChars_ne_nil (separator : Char) (text : List Char) :
    splitChars separator text ≠ [] := by
  cases text with
  | nil => simp [splitChars]
  | cons char rest => by_cases same : char = separator <;> simp [splitChars, same]

/-- Nothing is lost: the pieces with the separator between them are the text. -/
theorem intercalate_splitChars (separator : Char) (text : List Char) :
    [separator].intercalate (splitChars separator text) = text := by
  induction text with
  | nil => rfl
  | cons char rest ih =>
      obtain ⟨first, more, pieces⟩ := List.exists_cons_of_ne_nil (splitChars_ne_nil separator rest)
      rw [pieces] at ih
      by_cases same : char = separator
      · simp [splitChars, same, pieces, List.intercalate] at ih ⊢
        exact ih
      · cases more <;> simp_all [splitChars, List.intercalate]

example : split '/' "a//b/" = ["a", "", "b", ""] := by decide +kernel

end Scanout.Text

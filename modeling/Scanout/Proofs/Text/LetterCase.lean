import Mathlib.Tactic.Common
import Scanout.Text.LetterCase

/-!
Lower-casing does not see the case of ASCII letters: the form that a sigma takes depends on whether
its neighbours have case, which their lower-case letters have as well.
-/

namespace Scanout.Text

/-- Where case does not matter for ASCII letters, it does not matter for any. -/
theorem toLower_invariant {α : Type} (of : Char → α)
    (ascii : ∀ code < 128, of (Char.ofNat code).toLower = of (Char.ofNat code)) (char : Char) :
    of char.toLower = of char := by
  by_cases small : char.toNat < 128
  · simpa using ascii char.toNat small
  · have lower : ¬('A'.val ≤ char.val ∧ char.val ≤ 'Z'.val) := by
      rintro ⟨-, last⟩
      have last : char.toNat ≤ 'Z'.toNat := last
      have letter : 'Z'.toNat = 90 := rfl
      omega
    rw [show char.toLower = char from dif_neg lower]

theorem lowerChar_toLower (char : Char) : lowerChar char.toLower = lowerChar char := by
  have ascii : ∀ code < 128, (Char.ofNat code).toNat < 128 ∧
      (Char.ofNat code).toLower.toNat < 128 ∧
      (Char.ofNat code).toLower.toLower = (Char.ofNat code).toLower := by
    decide +kernel
  refine toLower_invariant lowerChar (fun code small => ?_) char
  obtain ⟨before, after, twice⟩ := ascii code small
  rw [lowerChar_of_ascii before, lowerChar_of_ascii after, twice]

theorem caseIgnorable_toLower (char : Char) :
    caseIgnorable.contains char.toLower = caseIgnorable.contains char :=
  toLower_invariant caseIgnorable.contains (by decide +kernel) char

theorem cased_toLower (char : Char) : cased.contains char.toLower = cased.contains char :=
  toLower_invariant cased.contains (by decide +kernel) char

theorem toLower_eq_sigma (char : Char) : char.toLower = 'Σ' ↔ char = 'Σ' := by
  have same := toLower_invariant (decide <| · = 'Σ') (by decide +kernel) char
  simpa using same

theorem nextIsCased_toLower (text : List Char) :
    nextIsCased (text.map Char.toLower) = nextIsCased text := by
  induction text with
  | nil => rfl
  | cons char rest ih =>
      simp only [nextIsCased] at ih ⊢
      cases ignored : caseIgnorable.contains char <;>
        simp [ignored, caseIgnorable_toLower, cased_toLower, ih]

theorem lowerAfter_toLower (before text : List Char) :
    lowerAfter (before.map Char.toLower) (text.map Char.toLower) = lowerAfter before text := by
  induction text generalizing before with
  | nil => rfl
  | cons char rest ih =>
      have later := ih (char :: before)
      rw [List.map_cons] at later
      simp only [List.map_cons, lowerAfter, toLower_eq_sigma, lowerChar_toLower,
        nextIsCased_toLower, later]

/-- Texts that differ only in the case of ASCII letters have the same lower-case form. -/
theorem lower_toLower (text : String) : lower text.toLower = lower text := by
  have same := lowerAfter_toLower [] text.toList
  rw [List.map_nil] at same
  change lower (text.map Char.toLower) = lower text
  rw [lower, lower, String.toList_map, same]

end Scanout.Text

import Mathlib.Data.List.Induction

/-!
What is outstanding in a history: something occurred, and nothing has settled it since.
-/

namespace Scanout

variable {α : Type} {occurs settles : α → Prop} {events : List α} {event : α}

/-- An event of a history that has grown by one is the last one or was there before. -/
theorem split_append_singleton {earlier later : List α} {last : α}
    (split : events ++ [last] = earlier ++ event :: later) :
    (events = earlier ∧ last = event ∧ later = []) ∨
      ∃ between, later = between ++ [last] ∧ events = earlier ++ event :: between := by
  cases later using List.reverseRecOn with
  | nil =>
      obtain ⟨same, ends⟩ := List.append_inj' split rfl
      exact .inl ⟨same, List.head_eq_of_cons_eq ends, rfl⟩
  | append_singleton between final _ =>
      rw [← List.cons_append, ← List.append_assoc] at split
      obtain ⟨same, ends⟩ := List.append_inj' split rfl
      exact .inr ⟨between, by rw [ends], same⟩

def Outstanding (occurs settles : α → Prop) (events : List α) : Prop :=
  ∃ earlier event later, events = earlier ++ event :: later ∧ occurs event ∧
    ∀ other ∈ later, ¬settles other

@[simp] theorem not_outstanding_nil : ¬Outstanding occurs settles [] := by
  rintro ⟨earlier, event, later, split, -⟩
  simp at split

@[simp] theorem outstanding_append_singleton :
    Outstanding occurs settles (events ++ [event]) ↔
      occurs event ∨ Outstanding occurs settles events ∧ ¬settles event := by
  constructor
  · rintro ⟨earlier, first, later, split, occurred, kept⟩
    rcases split_append_singleton split with ⟨rfl, rfl, rfl⟩ | ⟨between, rfl, rfl⟩
    · exact .inl occurred
    · have kept : (∀ other ∈ between, ¬settles other) ∧ ¬settles event := by
        simpa [or_imp, forall_and] using kept
      exact .inr ⟨⟨earlier, first, between, rfl, occurred, kept.1⟩, kept.2⟩
  · rintro (occurred | ⟨outstanding, unsettled⟩)
    · exact ⟨events, event, [], rfl, occurred, by simp⟩
    · obtain ⟨earlier, first, later, rfl, occurred, kept⟩ := outstanding
      refine ⟨earlier, first, later ++ [event], by simp, occurred, ?_⟩
      simpa [or_imp, forall_and] using ⟨kept, unsettled⟩

/-- Once settled, nothing is outstanding until it occurs again. -/
theorem not_outstanding_of_settled {later : List α} (settled : settles event)
    (ceased : ∀ other ∈ event :: later, ¬occurs other) :
    ¬Outstanding occurs settles (events ++ event :: later) := by
  induction later using List.reverseRecOn with
  | nil => simp [settled, ceased event (by simp)]
  | append_singleton later last ih =>
      have earlier : ∀ other ∈ event :: later, ¬occurs other := by
        intro other member
        exact ceased other (by grind)
      rw [← List.cons_append, ← List.append_assoc, outstanding_append_singleton]
      simp [ih earlier, ceased last (by simp)]

/-- More events that settle nothing leave outstanding what was. -/
theorem Outstanding.append {later : List α} (outstanding : Outstanding occurs settles events)
    (kept : ∀ other ∈ later, ¬settles other) : Outstanding occurs settles (events ++ later) := by
  obtain ⟨earlier, event, between, rfl, occurred, unsettled⟩ := outstanding
  refine ⟨earlier, event, between ++ later, by simp, occurred, ?_⟩
  simp only [List.mem_append]
  rintro other (member | member)
  · exact unsettled other member
  · exact kept other member

end Scanout

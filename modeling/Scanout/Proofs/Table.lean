import Mathlib.Algebra.BigOperators.Group.Multiset.Basic
import Mathlib.Tactic.Abel
import Scanout.Id

/-!
Finite maps: what is found under a key after a change, and what the entries of a map come to when
something is gathered from each. Gathering takes a map apart at one key, so that a change of one
entry shows as a change of one summand.
-/

namespace Scanout.Table

variable {κ α β : Type} [Ord κ] [Std.TransOrd κ] [Std.LawfulEqOrd κ] [DecidableEq κ]
  {table : Table κ α} {key other : κ} {value : α}

theorem getElem?_insert (table : Table κ α) (key other : κ) (value : α) :
    (table.insert key value)[other]? = if key = other then some value else table[other]? := by
  simp only [Std.ExtTreeMap.getElem?_insert, Std.compare_eq_iff_eq]

theorem getElem?_erase (table : Table κ α) (key other : κ) :
    (table.erase key)[other]? = if key = other then none else table[other]? := by
  simp only [Std.ExtTreeMap.getElem?_erase, Std.compare_eq_iff_eq]

theorem getElem?_erase_of_ne (different : key ≠ other) :
    (table.erase key)[other]? = table[other]? := by
  rw [getElem?_erase, if_neg different]

theorem contains_insert (table : Table κ α) (key other : κ) (value : α) :
    (table.insert key value).contains other = (other == key || table.contains other) := by
  rw [Std.ExtTreeMap.contains_insert, Bool.eq_iff_iff, Bool.or_eq_true, Bool.or_eq_true, beq_iff_eq,
    beq_iff_eq, Std.compare_eq_iff_eq, eq_comm]

theorem contains_erase (table : Table κ α) (key other : κ) :
    (table.erase key).contains other = (other != key && table.contains other) := by
  rw [Std.ExtTreeMap.contains_erase, Bool.eq_iff_iff, Bool.and_eq_true, Bool.and_eq_true, bne_iff_ne,
    bne_iff_ne, Ne, Ne, Std.compare_eq_iff_eq, eq_comm]

omit [DecidableEq κ] in
theorem nodup_toList (table : Table κ α) : table.toList.Nodup := by
  refine (Std.ExtTreeMap.distinct_keys_toList (t := table)).imp ?_
  intro first second different same
  exact different (by rw [same]; exact Std.compare_self)

/-- The entry of a key that is put in place, next to those of all other keys. -/
theorem toList_insert_perm (table : Table κ α) (key : κ) (value : α) :
    (table.insert key value).toList.Perm ((key, value) :: (table.erase key).toList) := by
  have absent : (key, value) ∉ (table.erase key).toList := by
    simp [Std.ExtTreeMap.mem_toList_iff_getElem?_eq_some]
  refine (List.perm_ext_iff_of_nodup (nodup_toList _)
    (List.nodup_cons.mpr ⟨absent, nodup_toList _⟩)).mpr ?_
  rintro ⟨other, content⟩
  simp only [List.mem_cons, Prod.mk.injEq, Std.ExtTreeMap.mem_toList_iff_getElem?_eq_some,
    getElem?_insert, getElem?_erase]
  by_cases same : key = other
  · simp [same, eq_comm]
  · simp [same, Ne.symm same]

theorem insert_of_found (found : table[key]? = some value) : table.insert key value = table := by
  refine Std.ExtTreeMap.ext_getElem? fun other => ?_
  rw [getElem?_insert]
  by_cases same : key = other
  · subst other
    rw [if_pos rfl, found]
  · rw [if_neg same]

theorem insert_insert (table : Table κ α) (key : κ) (first second : α) :
    (table.insert key first).insert key second = table.insert key second := by
  refine Std.ExtTreeMap.ext_getElem? fun other => ?_
  simp only [getElem?_insert]
  by_cases same : key = other
  · rw [if_pos same, if_pos same]
  · rw [if_neg same, if_neg same, if_neg same]

theorem erase_of_absent (absent : table[key]? = none) : table.erase key = table := by
  refine Std.ExtTreeMap.ext_getElem? fun other => ?_
  rw [getElem?_erase]
  by_cases same : key = other
  · subst other
    rw [if_pos rfl, absent]
  · rw [if_neg same]

/-- What all entries of a map hold, when each holds a number of things. -/
def gather (holds : α → Multiset β) (table : Table κ α) : Multiset β :=
  (table.toList.map fun entry => holds entry.2).sum

section Gather

variable {holds : α → Multiset β}

omit [Std.LawfulEqOrd κ] [DecidableEq κ] in
@[simp] theorem gather_empty : gather holds (∅ : Table κ α) = 0 := by
  rw [gather, Std.ExtTreeMap.toList_eq_nil_iff.mpr rfl, List.map_nil, List.sum_nil]

theorem gather_insert (table : Table κ α) (key : κ) (value : α) :
    gather holds (table.insert key value) = holds value + gather holds (table.erase key) := by
  have listed := (toList_insert_perm table key value).map fun entry => holds entry.2
  exact listed.sum_eq

/-- The entry of one key apart from the others. -/
theorem gather_of_found (found : table[key]? = some value) :
    gather holds table = holds value + gather holds (table.erase key) := by
  rw [← gather_insert, insert_of_found found]

/-- What goes out of an entry and what comes in for it goes out of the whole and comes in for it. -/
theorem gather_exchange (holds : α → Multiset β) {replaced : α}
    {outgoing incoming : Multiset β} (found : table[key]? = some replaced)
    (exchanged : holds value + outgoing = holds replaced + incoming) :
    gather holds (table.insert key value) + outgoing = gather holds table + incoming := by
  rw [gather_insert, gather_of_found found, add_right_comm, exchanged]
  abel

theorem gather_of_absent (absent : table[key]? = none) :
    gather holds (table.insert key value) = gather holds table + holds value := by
  rw [gather_insert, erase_of_absent absent, add_comm]

omit [DecidableEq κ] in
/-- When no entry holds anything, neither does the whole. -/
theorem gather_eq_zero
    (nothing : ∀ (key : κ) (value : α), table[key]? = some value → holds value = 0) :
    gather holds table = 0 := by
  apply List.sum_eq_zero
  intro held member
  obtain ⟨⟨key, value⟩, listed, rfl⟩ := List.mem_map.mp member
  exact nothing key value (Std.ExtTreeMap.mem_toList_iff_getElem?_eq_some.mp listed)

end Gather

end Scanout.Table

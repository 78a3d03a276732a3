import Scanout.Proofs.References.System
import Scanout.Proofs.Table

/-!
The counting pool over all its calls. It counts the references of each identity and those of all
identities together, and the two counts stay in step: every identity on record has a reference, the
total is the sum of the counts, and it never exceeds the capacity. So the count of an identity is
the number of imports that were granted less the number of frees that found one outstanding.
-/

namespace Scanout

namespace Table

variable {κ : Type} [Ord κ] [Std.TransOrd κ] [Std.LawfulEqOrd κ] [DecidableEq κ]
  {table : Table κ Nat} {key : κ} {count : Nat}

/-- The sum of all numbers in a map. -/
def total (table : Table κ Nat) : Nat := (table.toList.map Prod.snd).sum

omit [Std.LawfulEqOrd κ] [DecidableEq κ] in
@[simp] theorem total_empty : total (∅ : Table κ Nat) = 0 := by
  rw [total, Std.ExtTreeMap.toList_eq_nil_iff.mpr rfl]
  rfl

theorem total_insert (table : Table κ Nat) (key : κ) (count : Nat) :
    total (table.insert key count) = count + total (table.erase key) := by
  have listed := (toList_insert_perm table key count).map Prod.snd
  simpa [total] using listed.sum_eq

theorem total_of_found (found : table[key]? = some count) :
    total table = count + total (table.erase key) := by
  rw [← total_insert, insert_of_found found]

theorem total_of_absent (absent : table[key]? = none) :
    total (table.insert key count) = total table + count := by
  rw [total_insert, erase_of_absent absent, Nat.add_comm]

end Table

namespace Pool

variable {pool after : Pool} {handle : NativeHandle} {id : BufferId}

theorem refCount_importBuffer {native : NativeHandle}
    (granted : pool.importBuffer native = .ok after) (id : BufferId) :
    after.refCount id = pool.refCount id + if native.id = id then 1 else 0 := by
  unfold importBuffer at granted
  split at granted
  · cases granted
  · split at granted
    · cases granted
    · cases granted
      unfold refCount
      rw [Table.getElem?_insert]
      by_cases same : native.id = id
      · rw [if_pos same, if_pos same, same]
        rfl
      · rw [if_neg same, if_neg same, add_zero]

theorem refCount_freeBuffer (pool : Pool) (native : NativeHandle) (id : BufferId) :
    (pool.freeBuffer native).refCount id = pool.refCount id - if native.id = id then 1 else 0 := by
  unfold freeBuffer
  by_cases same : native.id = id
  · subst id
    rw [if_pos rfl]
    cases entry : pool.references[native.id]? with
    | none => simp [refCount, entry]
    | some count =>
        by_cases last : count = 1
        · simp [refCount, entry, last]
        · simp [refCount, entry, last]
  · rw [if_neg same, Nat.sub_zero]
    cases entry : pool.references[native.id]? with
    | none => rfl
    | some count =>
        unfold refCount
        by_cases last : count = 1
        · simp only [if_pos last, Table.getElem?_erase, if_neg same]
        · simp only [if_neg last, Table.getElem?_insert, if_neg same]

/-- How an import is answered: by its first negative descriptor, and then by how full the pool is. -/
inductive Judges (pool : Pool) (handle : NativeHandle) : Except BufferError Pool → Prop where
  | invalid {before rest : List Int} {fd : Int} (listed : handle.fds = before ++ fd :: rest)
      (fine : ∀ other ∈ before, 0 ≤ other) (negative : fd < 0) :
      Judges pool handle
        (.error (.invalidHandle handle.id s!"negative file descriptor {fd}"))
  | full (fine : ∀ fd ∈ handle.fds, 0 ≤ fd) (full : pool.capacity ≤ pool.live) :
      Judges pool handle (.error (.capacityExceeded pool.capacity))
  | granted (fine : ∀ fd ∈ handle.fds, 0 ≤ fd) (room : pool.live < pool.capacity) :
      Judges pool handle
        (.ok { pool with
          references := pool.references.insert handle.id (pool.refCount handle.id + 1)
          live := pool.live + 1 })

theorem judges_importBuffer (pool : Pool) (handle : NativeHandle) :
    pool.Judges handle (pool.importBuffer handle) := by
  unfold importBuffer
  cases negative : handle.fds.find? (· < 0) with
  | some fd =>
      obtain ⟨isNegative, before, rest, listed, fine⟩ := List.find?_eq_some_iff_append.mp negative
      exact .invalid listed (by simpa using fine) (by simpa using isNegative)
  | none =>
      have fine : ∀ fd ∈ handle.fds, 0 ≤ fd := by simpa using negative
      by_cases full : pool.capacity ≤ pool.live
      · simp only [if_pos full]
        exact .full fine full
      · simp only [if_neg full]
        exact .granted fine (by omega)

theorem refCount_eq_zero (absent : pool.references[id]? = none) : pool.refCount id = 0 := by
  simp [refCount, absent]

theorem refCount_of_found {count : Nat} (found : pool.references[id]? = some count) :
    pool.refCount id = count := by
  simp [refCount, found]

/-- The counts of the pool are in step with each other. -/
structure Balanced (pool : Pool) : Prop where
  live : pool.live = pool.references.total
  recorded {id : BufferId} {count : Nat} : pool.references[id]? = some count → 1 ≤ count
  bounded : pool.live ≤ pool.capacity

namespace Balanced

theorem fresh (capacity : Nat) : Balanced { capacity } where
  live := Table.total_empty.symm
  recorded found := by simp at found
  bounded := Nat.zero_le capacity

theorem refCount_le_live (balanced : pool.Balanced) (id : BufferId) :
    pool.refCount id ≤ pool.live := by
  cases entry : pool.references[id]? with
  | none => simp [refCount_eq_zero entry]
  | some count =>
      rw [refCount_of_found entry, balanced.live, Table.total_of_found entry]
      omega

theorem importBuffer (balanced : pool.Balanced) (granted : pool.importBuffer handle = .ok after) :
    after.Balanced := by
  have judged := pool.judges_importBuffer handle
  rw [granted] at judged
  cases judged with
  | granted fine room =>
      have counted : pool.references.total + 1 =
          Table.total (pool.references.insert handle.id (pool.refCount handle.id + 1)) := by
        cases entry : pool.references[handle.id]? with
        | none => rw [Table.total_of_absent entry, refCount_eq_zero entry]
        | some count =>
            rw [Table.total_insert, Table.total_of_found entry, refCount_of_found entry]
            omega
      constructor
      case live => rw [← counted, balanced.live]
      case recorded =>
        intro id count found
        rw [Table.getElem?_insert] at found
        split at found
        · cases found
          omega
        · exact balanced.recorded found
      case bounded => exact room

/-- A free takes one from both counts, if the identity is on record, and nothing else. -/
theorem freeBuffer (balanced : pool.Balanced) (handle : NativeHandle) :
    (pool.freeBuffer handle).Balanced := by
  unfold Pool.freeBuffer
  cases entry : pool.references[handle.id]? with
  | none => exact balanced
  | some count =>
      have positive := balanced.recorded entry
      have total := balanced.live
      have bounded := balanced.bounded
      rw [Table.total_of_found entry] at total
      by_cases last : count = 1
      · simp only [if_pos last]
        constructor
        case live =>
          simp only
          omega
        case recorded =>
          intro id kept found
          rw [Table.getElem?_erase] at found
          split at found
          · cases found
          · exact balanced.recorded found
        case bounded =>
          simp only
          omega
      · simp only [if_neg last]
        constructor
        case live =>
          simp only [Table.total_insert]
          omega
        case recorded =>
          intro id kept found
          rw [Table.getElem?_insert] at found
          split at found
          · cases found
            omega
          · exact balanced.recorded found
        case bounded =>
          simp only
          omega

theorem freeBuffer_of_none (balanced : pool.Balanced) (none : pool.refCount handle.id = 0) :
    pool.freeBuffer handle = pool := by
  unfold Pool.freeBuffer
  cases entry : pool.references[handle.id]? with
  | none => rfl
  | some count =>
      have positive := balanced.recorded entry
      rw [refCount_of_found entry] at none
      omega

theorem live_freeBuffer (balanced : pool.Balanced) (some : 0 < pool.refCount handle.id) :
    (pool.freeBuffer handle).live + 1 = pool.live := by
  have least := balanced.refCount_le_live handle.id
  unfold Pool.freeBuffer
  cases entry : pool.references[handle.id]? with
  | none => simp [refCount_eq_zero entry] at some
  | some count =>
      simp only
      omega

end Balanced

end Pool

/-- A call of the importer. -/
inductive PoolCall where
  | importBuffer (handle : NativeHandle)
  | freeBuffer (handle : NativeHandle)
  deriving DecidableEq, Repr

namespace PoolCall

/-- An import of the identity that the pool grants. -/
def takes (id : BufferId) (pool : Pool) : PoolCall → Bool
  | importBuffer handle => handle.id = id && (pool.importBuffer handle).isOk
  | freeBuffer _ => false

/-- A free of the identity while a reference to it is outstanding. -/
def gives (id : BufferId) (pool : Pool) : PoolCall → Bool
  | importBuffer _ => false
  | freeBuffer handle => handle.id = id && 0 < pool.refCount id

end PoolCall

namespace Pool

variable {pool : Pool}

/-- The pool that a call leaves. -/
def after (pool : Pool) : PoolCall → Pool
  | .importBuffer handle => (importer.take pool handle).2
  | .freeBuffer handle => importer.give pool handle

def run (pool : Pool) (calls : List PoolCall) : Pool := calls.foldl after pool

/-- The number of calls that count, each at the pool that it finds. -/
def tally (counts : Pool → PoolCall → Bool) (pool : Pool) : List PoolCall → Nat
  | [] => 0
  | call :: rest => (counts pool call).toNat + (pool.after call).tally counts rest

theorem refCount_after (pool : Pool) (call : PoolCall) (id : BufferId) :
    (pool.after call).refCount id + (call.gives id pool).toNat =
      pool.refCount id + (call.takes id pool).toNat := by
  cases call with
  | importBuffer handle =>
      cases outcome : pool.importBuffer handle with
      | error reason => simp [after, importer, outcome, PoolCall.takes, PoolCall.gives, Except.isOk,
          Except.toBool]
      | ok granted =>
          simp only [after, importer, outcome, refCount_importBuffer outcome id]
          by_cases same : handle.id = id <;>
            simp [PoolCall.takes, PoolCall.gives, same, outcome, Except.isOk, Except.toBool]
  | freeBuffer handle =>
      simp only [after, importer, refCount_freeBuffer]
      by_cases same : handle.id = id
      · by_cases outstanding : 0 < pool.refCount id
        · simp [PoolCall.takes, PoolCall.gives, same, outstanding]
          omega
        · simp [PoolCall.takes, PoolCall.gives, same, outstanding]
          omega
      · simp [PoolCall.takes, PoolCall.gives, same]

theorem capacity_after (pool : Pool) (call : PoolCall) :
    (pool.after call).capacity = pool.capacity := by
  cases call with
  | importBuffer handle =>
      have judged := pool.judges_importBuffer handle
      cases outcome : pool.importBuffer handle with
      | error reason => simp [after, importer, outcome]
      | ok granted =>
          rw [outcome] at judged
          cases judged
          simp [after, importer, outcome]
  | freeBuffer handle =>
      simp only [after, importer, freeBuffer]
      split <;> rfl

theorem Balanced.after (balanced : pool.Balanced) (call : PoolCall) :
    (pool.after call).Balanced := by
  cases call with
  | importBuffer handle =>
      cases outcome : pool.importBuffer handle with
      | error reason => simpa [Pool.after, importer, outcome] using balanced
      | ok granted => simpa [Pool.after, importer, outcome] using balanced.importBuffer outcome
  | freeBuffer handle => exact balanced.freeBuffer handle

theorem Balanced.run (balanced : pool.Balanced) (calls : List PoolCall) :
    (pool.run calls).Balanced := by
  induction calls generalizing pool with
  | nil => exact balanced
  | cons call rest ih => exact ih (balanced.after call)

theorem capacity_run (pool : Pool) (calls : List PoolCall) :
    (pool.run calls).capacity = pool.capacity := by
  induction calls generalizing pool with
  | nil => rfl
  | cons call rest ih => exact (ih (pool.after call)).trans (pool.capacity_after call)

theorem refCount_run (pool : Pool) (calls : List PoolCall) (id : BufferId) :
    (pool.run calls).refCount id + pool.tally (PoolCall.gives id) calls =
      pool.refCount id + pool.tally (PoolCall.takes id) calls := by
  induction calls generalizing pool with
  | nil => rfl
  | cons call rest ih =>
      have step := pool.refCount_after call id
      have further := ih (pool.after call)
      change ((pool.after call).run rest).refCount id + _ = _
      simp only [tally]
      omega

/-- What an import is answered, and what it leaves. -/
structure Decides (pool : Pool) (handle : NativeHandle) (answer : Except BufferError Unit)
    (after : Pool) : Prop where
  granted_iff : answer = .ok () ↔ (∀ fd ∈ handle.fds, 0 ≤ fd) ∧ pool.live < pool.capacity
  invalid_iff :
    (∃ reason, answer = .error (.invalidHandle handle.id reason)) ↔ ∃ fd ∈ handle.fds, fd < 0
  full_iff : answer = .error (.capacityExceeded pool.capacity) ↔
    (∀ fd ∈ handle.fds, 0 ≤ fd) ∧ pool.capacity ≤ pool.live
  refused : answer ≠ .ok () → after = pool
  granted : answer = .ok () → after.live = pool.live + 1 ∧ after.live ≤ pool.capacity ∧
    after.refCount handle.id = pool.refCount handle.id + 1 ∧
      after.refCount handle.id ≤ pool.capacity

theorem Balanced.decides (balanced : pool.Balanced) (handle : NativeHandle) :
    pool.Decides handle (importer.take pool handle).1 (importer.take pool handle).2 := by
  have judged := pool.judges_importBuffer handle
  cases outcome : pool.importBuffer handle with
  | error reason =>
      simp only [importer, outcome]
      rw [outcome] at judged
      cases judged with
      | @invalid before rest fd listed fine negative =>
          have member : fd ∈ handle.fds := by simp [listed]
          have refuted : ¬∀ fd ∈ handle.fds, 0 ≤ fd := by
            intro valid
            have := valid fd member
            omega
          constructor
          case granted_iff => simp [refuted]
          case invalid_iff => simpa using ⟨fd, member, negative⟩
          case full_iff => simp [refuted]
          case refused => simp
          case granted => simp
      | full fine full =>
          constructor
          case granted_iff => simp [full]
          case invalid_iff => simpa using fine
          case full_iff => simpa using ⟨fine, full⟩
          case refused => simp
          case granted => simp
  | ok after =>
      have counted := refCount_importBuffer outcome handle.id
      have most := (balanced.importBuffer outcome).refCount_le_live handle.id
      simp only [importer, outcome]
      rw [outcome] at judged
      cases judged with
      | granted fine room =>
          rw [if_pos rfl] at counted
          constructor
          case granted_iff => simpa using ⟨fine, room⟩
          case invalid_iff => simpa using fine
          case full_iff => simp [room]
          case refused => simp
          case granted => exact fun _ => ⟨rfl, room, counted, most.trans room⟩

/-- After any calls the counts are in step, and the count of an identity is the number of imports
that were granted less the number of frees that found a reference. An import is granted exactly when
no descriptor is negative and there is room, and the descriptors are looked at first. What is refused
and what frees nothing leaves the pool as it is; all else moves both counts by exactly one. -/
theorem counts_in_step (capacity : Nat) (calls : List PoolCall) :
    let pool := run { capacity } calls
    pool.capacity = capacity ∧
    pool.Balanced ∧
    (∀ id, pool.refCount id + tally (PoolCall.gives id) { capacity } calls =
      tally (PoolCall.takes id) { capacity } calls) ∧
    (∀ handle,
      pool.Decides handle (importer.take pool handle).1 (importer.take pool handle).2) ∧
    ∀ handle,
      let after := importer.give pool handle
      (pool.refCount handle.id = 0 → after = pool) ∧
      (pool.refCount handle.id ≠ 0 → after.live + 1 = pool.live ∧
        after.refCount handle.id + 1 = pool.refCount handle.id) := by
  intro pool
  have balanced : pool.Balanced := (Balanced.fresh capacity).run calls
  have counted (id : BufferId) : pool.refCount id + tally (PoolCall.gives id) { capacity } calls =
      0 + tally (PoolCall.takes id) { capacity } calls := by
    rw [refCount_run, refCount_eq_zero (by simp)]
  simp only [Nat.zero_add] at counted
  refine ⟨capacity_run _ calls, balanced, counted, balanced.decides, ?_⟩
  intro handle after
  constructor
  · intro none
    exact balanced.freeBuffer_of_none none
  · intro some
    have positive : 0 < pool.refCount handle.id := by omega
    have counted := pool.refCount_freeBuffer handle handle.id
    rw [if_pos rfl] at counted
    change after.refCount handle.id = _ at counted
    have live : after.live + 1 = pool.live := balanced.live_freeBuffer positive
    omega

end Pool
end Scanout

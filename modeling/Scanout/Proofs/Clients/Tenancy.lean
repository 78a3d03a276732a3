import Mathlib.Data.Multiset.Basic
import Scanout.Id

/-!
The client slot from tenant to tenant. Clients are numbered as they take the slot, so all but the last
have departed. The last one arrives, settles, departs and tells the device before it is gone that
there is no receiver.
-/

namespace Scanout

/-- What somebody does that matters for the client slot. -/
inductive Role where
  /-- Creates the client, and has got the slot for it. -/
  | arriving (id : ClientId)
  /-- Has created the client. -/
  | settled (id : ClientId)
  /-- Drops the client, and has told the device that there is no receiver or is still to. -/
  | departing (id : ClientId) (unregistered : Bool)
  /-- Has dropped the client. -/
  | departed (id : ClientId)

namespace Role

/-- Those who have created and dropped the first clients. -/
def former : Nat → Multiset Role
  | 0 => 0
  | count + 1 => settled ⟨count⟩ ::ₘ departed ⟨count⟩ ::ₘ former count

theorem mem_former {role : Role} {count : Nat} : role ∈ former count ↔
    ∃ id : ClientId, id.raw < count ∧ (role = settled id ∨ role = departed id) := by
  induction count with
  | zero => simp [former]
  | succ count ih =>
      simp only [former, Multiset.mem_cons, ih]
      constructor
      · rintro (rfl | rfl | ⟨id, earlier, named⟩)
        · exact ⟨⟨count⟩, Nat.lt_succ_self count, .inl rfl⟩
        · exact ⟨⟨count⟩, Nat.lt_succ_self count, .inr rfl⟩
        · exact ⟨id, Nat.lt_succ_of_lt earlier, named⟩
      · rintro ⟨⟨raw⟩, earlier, named⟩
        cases Nat.lt_succ_iff_lt_or_eq.mp earlier with
        | inl earlier => exact .inr (.inr ⟨⟨raw⟩, earlier, named⟩)
        | inr last =>
            cases last
            exact named.imp_right .inl

variable {id : ClientId} {count : Nat} {unregistered : Bool}

@[simp] theorem arriving_not_mem_former : arriving id ∉ former count := by simp [mem_former]

@[simp] theorem departing_not_mem_former : departing id unregistered ∉ former count := by
  simp [mem_former]

@[simp, grind =] theorem settled_mem_former : settled id ∈ former count ↔ id.raw < count := by
  simp [mem_former]

@[simp, grind =] theorem departed_mem_former : departed id ∈ former count ↔ id.raw < count := by
  simp [mem_former]

end Role

open Role

/-- Whether the client slot is taken, how many have taken it, whom the device tells of events, and
who has which role. -/
inductive Tenancy : Bool → Nat → Option ClientId → Multiset Role → Prop where
  | vacant (count : Nat) : Tenancy false count none (former count)
  | arriving (count : Nat) : Tenancy true (count + 1) none (arriving ⟨count⟩ ::ₘ former count)
  | settled (count : Nat) :
      Tenancy true (count + 1) (some ⟨count⟩) (settled ⟨count⟩ ::ₘ former count)
  | leaving (count : Nat) : Tenancy true (count + 1) (some ⟨count⟩)
      (departing ⟨count⟩ false ::ₘ settled ⟨count⟩ ::ₘ former count)
  | unregistered (count : Nat) : Tenancy true (count + 1) none
      (departing ⟨count⟩ true ::ₘ settled ⟨count⟩ ::ₘ former count)

namespace Tenancy

variable {occupied : Bool} {count : Nat} {receiver : Option ClientId} {roles others : Multiset Role}
  {id : ClientId}

theorem takes (tenancy : Tenancy false count receiver roles) :
    Tenancy true (count + 1) receiver (Role.arriving ⟨count⟩ ::ₘ roles) := by
  cases tenancy
  exact .arriving count

theorem cons_eq_cons {role first : Role} {rest : Multiset Role}
    (same : role ::ₘ others = first ::ₘ rest) (new : role ∉ rest) : role = first ∧ others = rest := by
  have member : role ∈ first ::ₘ rest := same ▸ Multiset.mem_cons_self role others
  obtain rfl := (Multiset.mem_cons.mp member).resolve_right new
  exact ⟨rfl, (Multiset.cons_inj_right role).mp same⟩

theorem installs (tenancy : Tenancy occupied count receiver (Role.arriving id ::ₘ others)) :
    Tenancy occupied count (some id) (Role.settled id ::ₘ others) := by
  have present := Multiset.mem_cons_self (Role.arriving id) others
  generalize same : Role.arriving id ::ₘ others = roles at tenancy present
  cases tenancy with
  | arriving count =>
      obtain ⟨named, rfl⟩ := cons_eq_cons same (by simp)
      cases named
      exact .settled count
  | _ => simp at present

/-- Only the last client can be dropped, and only once. -/
theorem leaves (tenancy : Tenancy occupied count receiver roles)
    (created : Role.settled id ∈ roles) (stays : ∀ unregistered, departing id unregistered ∉ roles)
    (alive : Role.departed id ∉ roles) :
    Tenancy occupied count receiver (departing id false ::ₘ roles) := by
  cases tenancy with
  | settled count =>
      have last : id = ⟨count⟩ := by grind
      exact last ▸ .leaving count
  | _ => grind

/-- Whoever departs is the last client, and the receiver until that is undone. -/
theorem departing_last {unregistered : Bool}
    (tenancy : Tenancy occupied count receiver (departing id unregistered ::ₘ others)) :
    count = id.raw + 1 ∧ occupied = true ∧ receiver = (if unregistered then none else some id) ∧
      others = Role.settled id ::ₘ former id.raw := by
  have present := Multiset.mem_cons_self (departing id unregistered) others
  generalize same : departing id unregistered ::ₘ others = roles at tenancy present
  cases tenancy with
  | leaving count | unregistered count =>
      obtain ⟨named, rest⟩ := cons_eq_cons same (by simp)
      cases named
      exact ⟨rfl, rfl, rfl, rest⟩
  | _ => simp at present

theorem unregisters (tenancy : Tenancy occupied count receiver (departing id false ::ₘ others)) :
    Tenancy occupied count none (departing id true ::ₘ others) := by
  obtain ⟨rfl, rfl, rfl, rfl⟩ := tenancy.departing_last
  exact .unregistered id.raw

theorem releases (tenancy : Tenancy occupied count receiver (departing id true ::ₘ others)) :
    Tenancy false count receiver (departed id ::ₘ others) := by
  obtain ⟨rfl, rfl, rfl, rfl⟩ := tenancy.departing_last
  rw [Multiset.cons_swap]
  exact .vacant (id.raw + 1)

/-- Whoever has not departed is the last client. -/
theorem last (tenancy : Tenancy occupied count receiver roles) (taken : id.raw < count)
    (alive : departed id ∉ roles) : occupied = true ∧ id.raw + 1 = count := by
  cases tenancy with
  | vacant count => simp_all
  | _ count =>
      have late : ¬id.raw < count := by simpa using alive
      exact ⟨rfl, by omega⟩

theorem alive_of_occupied (tenancy : Tenancy true count receiver roles) :
    ∃ id : ClientId, id.raw < count ∧ departed id ∉ roles := by
  cases tenancy with
  | _ count => exact ⟨⟨count⟩, by simp⟩

theorem alive_of_receiver (tenancy : Tenancy occupied count (some id) roles) :
    id.raw < count ∧ departed id ∉ roles := by
  cases tenancy <;> simp

theorem receiver_of_settled (tenancy : Tenancy occupied count receiver roles)
    (created : Role.settled id ∈ roles) (registered : departing id true ∉ roles)
    (alive : departed id ∉ roles) : receiver = some id := by
  cases tenancy <;> grind

end Tenancy
end Scanout

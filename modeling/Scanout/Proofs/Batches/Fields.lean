import Scanout.Proofs.Batches.Brightness
import Scanout.Proofs.Field
import Scanout.Proofs.Slots.Refinement

/-!
What a field does, from its own values, the slots and the answers it gets. A field that passes its
check and finds its buffer makes one setter call; the buffer is stored whatever the device says to
it, and what the device says comes before what the slot says.
-/

namespace Scanout

def Setting.told (setting : Setting) (display : DisplayId) (answer : Except Status Unit) :
    Exchange :=
  match setting with
  | .display setting => ⟨.device (.setDisplay display setting), answer⟩
  | .layer id setting => ⟨.device (.setLayer display id setting), answer⟩

/-- The values that a field takes, where it does not take all. -/
def Field.InDomain : Field → Prop
  | .brightness number =>
      number.isFinite ∧ ((0 ≤ number.value ∧ number.value ≤ 1) ∨ number.value = -1)
  | .layer _ (.brightness number) => number.isFinite ∧ 0 ≤ number.value ∧ number.value ≤ 1
  | _ => True

theorem Field.check_iff (field : Field) : field.check = true ↔ field.InDomain := by
  cases field with
  | brightness number => exact Binary32.isDisplayBrightness_iff
  | layer id part =>
      cases part with
      | brightness number => exact Binary32.inUnitInterval_iff
      | _ => simp [check, InDomain]
  | _ => simp [check, InDomain]

namespace BufferRequest

def address (use : BufferRequest) (display : DisplayId) : SlotAddress :=
  ⟨display, use.kind, use.slot⟩

/-- How a buffer is found. The slot's own is read; a handle that comes along is imported, unless it
is that of a stream, which is copied. -/
inductive Finds (use : BufferRequest) (display : DisplayId) (slots : SlotMap) :
    List Exchange → Except Status (Option NativeHandle) → Prop where
  | reused (reuse : use.reuse = true) : Finds use display slots [] (slots.read (use.address display))
  | missing (fresh : use.reuse = false) (missing : use.handle = none) :
      Finds use display slots [] (.ok none)
  | copied {native layer} (fresh : use.reuse = false) (given : use.handle = some native)
      (stream : use.kind = .sidebandStream layer) : Finds use display slots [] (.ok (some native))
  | imported {native} (fresh : use.reuse = false) (given : use.handle = some native)
      (buffer : ∀ layer, use.kind ≠ .sidebandStream layer) :
      Finds use display slots [⟨.importBuffer native, Except.ok ()⟩] (.ok (some native))
  | declined {native status} (reason : BufferError) (fresh : use.reuse = false)
      (given : use.handle = some native) (buffer : ∀ layer, use.kind ≠ .sidebandStream layer)
      (reported : reason.ReportedAs status) :
      Finds use display slots [⟨.importBuffer native, Except.error reason⟩] (.error status)

/-- The slots after a buffer was stored. One that was the slot's own is there already. -/
def stored (use : BufferRequest) (display : DisplayId) (slots : SlotMap)
    (native : Option NativeHandle) : Except Status SlotMap :=
  if use.reuse then .ok slots else slots.write (use.address display) native

/-- The handle that comes with a buffer is what its slot is to get. -/
def Brings (use : BufferRequest) (buffer : ResolvedBuffer) : Prop :=
  buffer.handle?.map Handle.native = if use.reuse then none else buffer.native

end BufferRequest

/-- The result of a field whose buffer was stored: what the device said, or else what the slot
said. -/
def firstError : Except Status Unit → Except Status Unit → Except Status Unit
  | .error status, _ => .error status
  | .ok (), stored => stored

/-- What carrying out a field exchanges, what it results in and the registry it leaves. -/
inductive Field.Effect (field : Field) (display : DisplayId) (before : Registry) :
    List Exchange → Except Status Unit → Registry → Prop where
  | refused (outside : ¬field.InDomain) : Effect field display before [] (.error .badParameter) before
  | told (inside : field.InDomain) (plain : field.buffer? = none) (answer : Except Status Unit) :
      Effect field display before [(field.setting none).told display answer] answer before
  | unfound {use sought status} (buffered : field.buffer? = some use)
      (declined : use.Finds display before.slots sought (.error status)) :
      Effect field display before sought (.error status) before
  | stored {use sought native freed result after} (buffered : field.buffer? = some use)
      (found : use.Finds display before.slots sought (.ok native)) (answer : Except Status Unit)
      (settled : before.slots.Settles (use.stored display before.slots native) result
        (freed.map Exchange.request) after.slots)
      (trackers : ∀ other, after.commitTracker other = before.commitTracker other) :
      Effect field display before (sought ++ (field.setting native).told display answer :: freed)
        (firstError answer result) after

theorem Action.Ensures.released {σ α : Type} {start : σ} (handles : List Handle) {value : α}
    {post : List Exchange → α → σ → Prop}
    (holds : ∀ freed, OnlyFrees (freed.map Exchange.request) → post freed value start) :
    (Action.release handles >>= fun _ => Pure.pure value : Action σ α).Ensures Eq start post := by
  unfold Action.release
  induction referencesOf handles generalizing post with
  | nil => exact .pure (holds [] Registry.onlyFrees_nil)
  | cons native natives ih =>
      refine Run.Ensures.ask fun reply after same => ?_
      subst same
      refine ih fun freed frees => holds (⟨.freeBuffer native, reply⟩ :: freed) ?_
      intro request asked
      rcases List.mem_cons.mp asked with rfl | later
      · exact ⟨native, rfl⟩
      · exact frees request later

namespace Registry

variable {display : DisplayId} {before : Registry} {use : BufferRequest}

theorem commitTracker_store {id : DisplayId} {kind : BufferKind} {slot : Nat}
    {content held : Option Handle} {after : Registry}
    (stored : before.store id kind slot content = .ok (after, held)) (other : DisplayId) :
    after.commitTracker other = before.commitTracker other := by
  obtain ⟨display, changed, found, placed, rfl⟩ := store_ok stored
  have kept : changed.commit = display.commit := by cases placed <;> rfl
  have entry := display_ok found
  unfold commitTracker Registry.display putDisplay
  rw [Table.getElem?_insert]
  by_cases same : id = other
  · subst other
    rw [if_pos rfl, entry]
    exact congrArg Except.ok kept
  · rw [if_neg same]

theorem lookup_ensures :
    (lookup display use.kind use.slot use.reuse use.handle).Ensures Eq before
      fun exchanges answer after => after = before ∧
        use.Finds display before.slots exchanges (answer.map ResolvedBuffer.native) ∧
          ∀ buffer, answer = .ok buffer → use.Brings buffer := by
  obtain ⟨kind, slot, reuse, handle⟩ := use
  unfold lookup
  cases reuse with
  | true =>
      have sought : BufferRequest.Finds ⟨kind, slot, true, handle⟩ display before.slots []
          (before.slots.read ⟨display, kind, slot⟩) := .reused rfl
      rw [← content_native] at sought
      refine .get (.pure ⟨rfl, ?_⟩)
      generalize before.content display kind slot = content at sought ⊢
      cases content with
      | error status => exact ⟨sought, nofun⟩
      | ok held =>
          refine ⟨sought, ?_⟩
          rintro _ ⟨⟩
          rfl
  | false =>
      cases handle with
      | none =>
          have missing : BufferRequest.Finds ⟨kind, slot, false, none⟩ display before.slots []
              (.ok none) := .missing rfl rfl
          refine .pure ⟨rfl, missing, ?_⟩
          rintro _ ⟨⟩
          rfl
      | some native =>
          cases kind with
          | sidebandStream layer =>
              have copied : BufferRequest.Finds ⟨.sidebandStream layer, slot, false, some native⟩
                  display before.slots [] (.ok (some native)) := .copied rfl rfl rfl
              refine .pure ⟨rfl, copied, ?_⟩
              rintro _ ⟨⟩
              rfl
          -- All other kinds ask for an import.
          | _ =>
              refine .bind (.ask fun reply after same => ?_)
              subst same
              rcases reply with reason | ⟨⟩
              · exact .pure ⟨rfl, .declined reason rfl rfl nofun reason.reportedAs_status, nofun⟩
              · refine .pure ⟨rfl, .imported rfl rfl nofun, ?_⟩
                rintro _ ⟨⟩
                rfl

theorem update_ensures {buffer : ResolvedBuffer} (brought : use.Brings buffer) :
    (update display use.kind use.slot use.reuse buffer).Ensures Eq before
      fun freed result after =>
        before.slots.Settles (use.stored display before.slots buffer.native) result
          (freed.map Exchange.request) after.slots ∧
            ∀ other, after.commitTracker other = before.commitTracker other := by
  obtain ⟨kind, slot, reuse, handle⟩ := use
  unfold update
  cases reuse with
  | true => exact .released _ fun freed frees => ⟨⟨frees, rfl, rfl⟩, fun _ => rfl⟩
  | false =>
      have native : buffer.handle?.map Handle.native = buffer.native := brought
      have commutes := slots_store before display kind slot buffer.handle?
      rw [native] at commutes
      refine .get ?_
      have written : BufferRequest.stored ⟨kind, slot, false, handle⟩ display before.slots
          buffer.native = before.slots.write ⟨display, kind, slot⟩ buffer.native := rfl
      rw [written, ← commutes]
      cases outcome : before.store display kind slot buffer.handle? with
      | error status => exact .released _ fun freed frees => ⟨⟨frees, rfl, rfl⟩, fun _ => rfl⟩
      | ok result =>
          obtain ⟨changed, held⟩ := result
          refine .set (.released _ fun freed frees => ⟨⟨frees, rfl, rfl⟩, ?_⟩)
          exact commitTracker_store outcome

end Registry

theorem Setting.tell_ensures {display : DisplayId} {before : Registry} (setting : Setting)
    {post : List Exchange → Except Status Unit → Registry → Prop}
    (holds : ∀ answer, post [setting.told display answer] answer before) :
    (setting.tell display).Ensures Eq before post := by
  cases setting with
  | display setting =>
      refine Run.Ensures.ask fun reply after same => .done ?_
      subst same
      exact holds reply
  | layer id setting =>
      refine Run.Ensures.ask fun reply after same => .done ?_
      subst same
      exact holds reply

theorem Field.apply_ensures (field : Field) (display : DisplayId) (before : Registry) :
    (field.apply display).Ensures Eq before fun exchanges result after =>
      field.Effect display before exchanges result after := by
  cases buffered : field.buffer? with
  | none =>
      by_cases inside : field.InDomain
      · rw [apply_of_plain (field.check_iff.mpr inside) buffered]
        exact (field.setting none).tell_ensures fun answer => .told inside buffered answer
      · have unchecked : field.check = false := by
          rwa [← field.check_iff, Bool.not_eq_true] at inside
        rw [apply_of_unchecked unchecked]
        exact .pure (.refused inside)
  | some use =>
      rw [apply_of_buffer buffered]
      refine .bind (Registry.lookup_ensures.imp ?_)
      rintro sought (status | buffer) after ⟨rfl, found, brought⟩
      · refine .pure ?_
        rw [List.append_nil]
        exact .unfound buffered found
      · refine .bind ((field.setting buffer.native).tell_ensures fun answer => ?_)
        refine .bind ((Registry.update_ensures (brought buffer rfl)).imp ?_)
        intro freed result final settles
        have effect : field.Effect display after
            (sought ++ (field.setting buffer.native).told display answer :: freed)
              (firstError answer result) final :=
          .stored buffered found answer settles.1 settles.2
        rcases answer with status | ⟨⟩
        · refine .pure ?_
          simpa [firstError] using effect
        · refine .pure ?_
          simpa [firstError] using effect

end Scanout

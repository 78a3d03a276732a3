import Mathlib
import Scanout.Proofs.Batches.Fields
import Scanout.Proofs.Batches.Writing
import Scanout.Simulation.Device

/-!
What becomes of a handle that a field brings and the device accepts. Where the slot it is meant for
exists, the slot holds it from then on, with the reference that was imported for it. The slot is
looked for after the device was told; where there is none the field fails, and the reference is
given back.
-/

namespace Scanout

/-- The field brings a handle to be imported. -/
structure BufferRequest.Supplies (use : BufferRequest) (native : NativeHandle) : Prop where
  fresh : use.reuse = false
  given : use.handle = some native
  imported (layer : LayerId) : use.kind ≠ .sidebandStream layer

theorem SlotCache.get_put {cache after : SlotCache} {slot : Nat} {content held : Option Handle}
    (stored : cache.put slot content = .ok (after, held)) : after.get slot = .ok content := by
  obtain ⟨present, rfl⟩ := put_ok stored
  have bound : slot < cache.slots.length := (List.getElem?_eq_some_iff.mp present).1
  simp [get, bound]

theorem Display.Stored.content {display after : Display} {slot : Nat} {kind : BufferKind}
    {content held : Option Handle} (stored : display.Stored slot content kind after held) :
    after.content kind slot = .ok content := by
  cases stored with
  | clientTarget put => simp [Display.content, SlotCache.get_put put, Except.mapError]
  | outputBuffer put => simp [Display.content, SlotCache.get_put put, Except.mapError]
  | @layerBuffer id layer cache held found put =>
      have present : (display.putLayer id { layer with buffers := cache }).layer id =
          .ok { layer with buffers := cache } := by
        simp [putLayer, Display.layer]
      simp [Display.content, present, SlotCache.get_put put, Except.mapError, bind, Except.bind]
  | @sidebandStream id layer found only =>
      have present : (display.putLayer id { layer with sidebandStream := content }).layer id =
          .ok { layer with sidebandStream := content } := by
        simp [putLayer, Display.layer]
      simp [Display.content, present, only, bind, Except.bind]

namespace Registry

variable {display : DisplayId} {kind : BufferKind} {slot : Nat} {before after : Registry}

theorem content_store {content held : Option Handle}
    (stored : before.store display kind slot content = .ok (after, held)) :
    after.content display kind slot = .ok content := by
  obtain ⟨entry, changed, found, placed, rfl⟩ := store_ok stored
  have present : (before.putDisplay display changed).display display = .ok changed := by
    simp [putDisplay, Registry.display]
  unfold Registry.content
  rw [present]
  exact placed.content

end Registry

/-- What becomes of a handle that was imported for a slot and that the device accepted. -/
inductive Settled (native : NativeHandle) (display : DisplayId) (kind : BufferKind) (slot : Nat)
    (before : Registry) : List Request → Except Status Unit → Registry → Prop where
  | kept {held after} (there : before.content display kind slot = .ok held)
      (holds : after.content display kind slot = .ok (some (.owning native)))
      (others : before.slots.write ⟨display, kind, slot⟩ (some native) = .ok after.slots) :
      Settled native display kind slot before
        ((referencesOf held.toList).map Request.freeBuffer) (.ok ()) after
  | released {status} (missing : before.content display kind slot = .error status) :
      Settled native display kind slot before [.freeBuffer native] (.error status) before

section

variable {α σ : Type} {start : σ} {display : DisplayId} {before : Registry} {native : NativeHandle}

theorem Settled.frees {kind : BufferKind} {slot : Nat} {after : Registry} {given : List Request}
    {result : Except Status Unit}
    (settled : Settled native display kind slot before given result after) :
    ∀ request ∈ given, ∃ freed, request = .freeBuffer freed := by
  intro request member
  cases settled with
  | kept there holds others =>
      obtain ⟨freed, -, rfl⟩ := List.mem_map.mp member
      exact ⟨freed, rfl⟩
  | released missing => exact ⟨native, List.mem_singleton.mp member⟩

theorem Registry.update_settled {use : BufferRequest} (fresh : use.reuse = false) :
    (update display use.kind use.slot use.reuse (.owned (.owning native))).Ensures Eq before
      fun freed result after =>
        Settled native display use.kind use.slot before (freed.map Exchange.request) result after := by
  unfold update
  rw [fresh]
  refine .get ?_
  have held := store_held before display use.kind use.slot (some (.owning native))
  have written := slots_store before display use.kind use.slot (some (.owning native))
  have handle : (ResolvedBuffer.owned (.owning native)).handle? = some (.owning native) := rfl
  rw [handle]
  cases stored : before.store display use.kind use.slot (some (.owning native)) with
  | error status =>
      rw [stored] at held
      refine .releasing _ fun freed frees => ?_
      rw [frees]
      exact .released held.symm
  | ok result =>
      obtain ⟨after, displaced⟩ := result
      rw [stored] at held written
      refine .set (.releasing _ fun freed frees => ?_)
      rw [frees]
      exact .kept held.symm (content_store stored) written.symm

theorem Registry.lookup_supplied {use : BufferRequest} (supplies : use.Supplies native) :
    (lookup display use.kind use.slot use.reuse use.handle).Ensures Eq before
      fun exchanges answer after => after = before ∧
        ((∃ reason, exchanges = [⟨.importBuffer native, Except.error reason⟩] ∧
            answer = .error (BufferError.status reason)) ∨
          exchanges = [⟨.importBuffer native, Except.ok ()⟩] ∧
            answer = .ok (.owned (.owning native))) := by
  obtain ⟨kind, slot, reuse, handle⟩ := use
  obtain ⟨rfl, rfl, imported⟩ := supplies
  unfold lookup
  cases kind with
  | sidebandStream layer => exact absurd rfl (imported layer)
  -- All other kinds ask for an import.
  | _ =>
      refine .bind (.ask fun reply after same => ?_)
      subst same
      rcases reply with reason | ⟨⟩
      · exact .pure ⟨rfl, .inl ⟨reason, rfl, rfl⟩⟩
      · exact .pure ⟨rfl, .inr ⟨rfl, rfl⟩⟩

section Told

variable {setting : Setting} {answer : Except Status Unit}

theorem Setting.told_ne_import {reply : Except BufferError Unit} :
    setting.told display answer ≠ ⟨.importBuffer native, reply⟩ := by
  cases setting <;> nofun

theorem Setting.told_ne_free : (setting.told display answer).request ≠ .freeBuffer native := by
  cases setting <;> nofun

theorem Setting.told_inj {other : Except Status Unit} :
    setting.told display answer = setting.told display other ↔ answer = other := by
  cases setting <;> simp [told]

end Told

/-- Whatever the importer and the device answer, a handle that a field brings and the device accepts
is settled: the field has imported it, told the device and done nothing else but give back what the
slot held before, or the handle's own reference where there is no such slot. -/
theorem Field.accepted_settled {field : Field} {use : BufferRequest}
    (buffered : field.buffer? = some use) (supplies : use.Supplies native) (registry : Registry)
    (replies : Replies) :
    let performance := (field.apply display).perform replies.quiet registry
    let accepted := (field.setting (some native)).told display (.ok ())
    accepted ∈ performance.exchanges →
      ∃ given, performance.requests = .importBuffer native :: accepted.request :: given ∧
        Settled native display use.kind use.slot registry given performance.value
          performance.state := by
  intro performance accepted
  have ended : ((field.apply display).start registry).Ends Eq performance.exchanges
      performance.value performance.state :=
    Action.perform_ends (fun _ _ _ => rfl) _ registry
  have settled : (field.apply display).Ensures Eq registry fun exchanges value after =>
      accepted ∈ exchanges → ∃ given,
        exchanges.map Exchange.request = .importBuffer native :: accepted.request :: given ∧
          Settled native display use.kind use.slot registry given value after := by
    rw [apply_of_buffer buffered]
    refine .bind ((Registry.lookup_supplied supplies).imp ?_)
    intro sought answer after looked
    obtain ⟨rfl, ⟨reason, rfl, rfl⟩ | ⟨rfl, rfl⟩⟩ := looked
    · refine .pure fun member => absurd member ?_
      rw [List.append_nil, List.mem_singleton]
      exact Setting.told_ne_import
    · refine .bind ((field.setting (some native)).tell_ensures fun told => ?_)
      refine .bind ((Registry.update_settled supplies.fresh).imp ?_)
      intro freed result final settled
      rcases told with status | ⟨⟩
      · refine .pure fun member => absurd member ?_
        have unfreed : accepted ∉ freed := by
          intro member
          obtain ⟨other, same⟩ := settled.frees _ (List.mem_map_of_mem member)
          exact Setting.told_ne_free same
        simpa [accepted, Setting.told_ne_import, Setting.told_inj] using unfreed
      · refine .pure fun _ => ⟨freed.map Exchange.request, ?_, settled⟩
        simp [accepted]
  exact settled _ _ _ ended

end

/-- A layer's slot holds a buffer when the next one arrives: the new one stays, the old one is given
back. -/
theorem Field.accepted_settled_replacing :
    let old : NativeHandle := ⟨⟨3⟩, [], []⟩
    let native : NativeHandle := ⟨⟨7⟩, [], []⟩
    let layer : Layer := { buffers := ⟨[some (.owning old)]⟩ }
    let registry : Registry := (∅ : Registry).putDisplay ⟨0⟩
      { isVirtual := false, layers := (∅ : Table LayerId Layer).insert ⟨1⟩ layer }
    let field : Field := .layer ⟨1⟩ (.buffer { slot := 0, handle := some native })
    let replies := ({} : SimulatedDevice).replies fun _ => false
    let performance := (field.apply ⟨0⟩).perform replies.quiet registry
    (∃ given, performance.requests = [.importBuffer native,
        .device (.setLayer ⟨0⟩ ⟨1⟩ (.buffer (some native) none))] ++ given ∧
      Settled native ⟨0⟩ (.layerBuffer ⟨1⟩) 0 registry given performance.value performance.state) ∧
    performance.requests.getLast? = some (.freeBuffer old) ∧
    performance.state.content ⟨0⟩ (.layerBuffer ⟨1⟩) 0 = .ok (some (.owning native)) := by
  intro old native layer registry field replies performance
  have supplies : BufferRequest.Supplies ⟨.layerBuffer ⟨1⟩, 0, false, some native⟩ native :=
    ⟨rfl, rfl, nofun⟩
  have accepted : (field.setting (some native)).told ⟨0⟩ (.ok ()) ∈ performance.exchanges := by
    have exchanges : performance.exchanges = [⟨.importBuffer native, Except.ok ()⟩,
        (field.setting (some native)).told ⟨0⟩ (.ok ()), ⟨.freeBuffer old, ()⟩] := by
      simp only [performance]
      cbv
    rw [exchanges]
    exact List.mem_cons_of_mem _ List.mem_cons_self
  refine ⟨Field.accepted_settled rfl supplies registry replies accepted, ?_, ?_⟩ <;>
    simp only [performance] <;> cbv

/-- A handle that the device accepts need not stay with it. The display of this client target is not
there, which shows only after the device was told of it, and then the reference is given back. -/
theorem Batch.accepted_released :
    let native : NativeHandle := ⟨⟨7⟩, [], []⟩
    let target : ClientTarget := { buffer := { slot := 0, handle := some native } }
    let batch : Batch := .regular [{ display := ⟨9⟩, clientTarget := some target }]
    let registry := ((∅ : Registry).addDisplay ⟨0⟩ false 1 0).2
    let replies := ({} : SimulatedDevice).replies fun _ => false
    let performance := batch.action.perform replies.quiet registry
    performance.exchanges = [⟨.importBuffer native, Except.ok ()⟩,
        ⟨.device (.setDisplay ⟨9⟩ (.clientTarget (some native) none {} [])), Except.ok ()⟩,
        ⟨.freeBuffer native, ()⟩] ∧
      performance.value = .ok [.error 0 .badDisplay] ∧
      performance.state.content ⟨9⟩ .clientTarget 0 ≠ .ok (some (.owning native)) ∧
      performance.state = registry := by
  intro native target batch registry replies performance
  refine ⟨?_, ?_, ?_, ?_⟩
  · simp only [performance]
    cbv
  · simp only [performance]
    cbv
  · simp only [performance]
    cbv
    simp
  · simp only [performance]
    rfl

end Scanout

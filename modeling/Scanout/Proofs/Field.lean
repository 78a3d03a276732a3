import Mathlib.Data.Nat.Bitwise
import Scanout.Proofs.Batches.Colour

/-!
What carrying out a field comes to. Whatever part of a command it is, it is either refused without
a call of the device, or one setter call, or one setter call between finding a buffer and storing
it. Which of the three, which setting and which buffer follow from the field.
-/

namespace Scanout

/-- A setting of a display or of one of its layers. -/
inductive Setting where
  | display (setting : DisplaySetting)
  | layer (id : LayerId) (setting : LayerSetting)

def Setting.tell (display : DisplayId) : Setting → Action Registry (Except Status Unit)
  | .display setting => Action.call (.setDisplay display setting)
  | .layer id setting => Action.call (.setLayer display id setting)

/-- A buffer that a field needs: where it is kept, and the handle that comes with the field unless
the slot's own buffer is meant. -/
structure BufferRequest where
  kind : BufferKind
  slot : Nat
  reuse : Bool
  handle : Option NativeHandle

/-- The setting that a device is told. Where the field has a buffer, it is the one that was found.
A colour comes in bytes, and a transform with bit 7, which marks it as invalid, comes as none. -/
def LayerField.setting (native : Option NativeHandle) : LayerField → LayerSetting
  | .cursorPosition position => .cursorPosition position
  | .buffer use => .buffer native use.fence
  | .damage region => .damage region
  | .blendMode mode => .blendMode mode
  | .composition value => .composition value
  | .color value => .color value.eightBit
  | .dataspace value => .dataspace value
  | .displayFrame frame => .displayFrame frame
  | .planeAlpha alpha => .planeAlpha alpha
  | .sidebandStream _ => .sidebandStream native
  | .sourceCrop crop => .sourceCrop crop
  | .visibleRegion region => .visibleRegion region
  | .transform value => .transform (if value.bits.toNat.testBit 7 then ⟨0⟩ else value)
  | .zOrder order => .zOrder order
  | .metadata entries => .metadata entries
  | .metadataBlobs entries => .metadataBlobs entries
  | .brightness value => .brightness value
  | .blockingRegion region => .blockingRegion region
  | .layerType type => .layerType type
  | .layerFlags flags => .layerFlags flags

theorem Transform.applied_eq (transform : Transform) :
    transform.applied = if transform.bits.toNat.testBit 7 then ⟨0⟩ else transform := by
  have marked : transform.contains invalidHint = transform.bits.toNat.testBit 7 := by
    have bit : transform.bits.toNat &&& 2 ^ 7 = (transform.bits.toNat.testBit 7).toNat * 2 ^ 7 :=
      Nat.and_two_pow _ _
    rw [Flags.contains, Bool.eq_iff_iff, beq_iff_eq, ← UInt32.toNat_inj, UInt32.toNat_and]
    change transform.bits.toNat &&& 2 ^ 7 = 2 ^ 7 ↔ _
    rw [bit]
    cases transform.bits.toNat.testBit 7 <;> decide
  rw [applied, marked]
  rfl

namespace Field

def setting (native : Option NativeHandle) : Field → Setting
  | .brightness value => .display (.brightness value)
  | .layer id part => .layer id (part.setting native)
  | .colorTransform matrix => .display (.colorTransform matrix)
  | .clientTarget target _ =>
      .display (.clientTarget native target.buffer.fence target.dataspace target.damage)
  | .outputBuffer use => .display (.outputBuffer native use.fence)
  | .elapsedTime nanoseconds => .display (.elapsedTime nanoseconds)

def buffer? : Field → Option BufferRequest
  | .layer id (.buffer use) => some ⟨.layerBuffer id, use.slot, use.handle.isNone, use.handle⟩
  | .layer id (.sidebandStream stream) => some ⟨.sidebandStream id, 0, false, some stream⟩
  | .clientTarget target reuse =>
      some ⟨.clientTarget, target.buffer.slot, reuse, target.buffer.handle⟩
  | .outputBuffer use => some ⟨.outputBuffer, use.slot, use.handle.isNone, use.handle⟩
  | _ => none

/-- The check of a field's own. Only brightnesses have one. -/
def check : Field → Bool
  | .brightness value => value.isDisplayBrightness
  | .layer _ (.brightness value) => value.inUnitInterval
  | _ => true

variable {field : Field} {display : DisplayId}

theorem apply_of_unchecked (unchecked : field.check = false) :
    field.apply display = pure (.error .badParameter) := by
  cases field with
  | brightness value =>
      simp only [check] at unchecked
      simp [Field.apply, unchecked]
  | layer id part =>
      cases part with
      | brightness value =>
          simp only [check] at unchecked
          simp [Field.apply, LayerField.apply, unchecked]
      | _ => cases unchecked
  | _ => cases unchecked

theorem apply_of_plain (checked : field.check = true) (plain : field.buffer? = none) :
    field.apply display = (field.setting none).tell display := by
  cases field with
  | brightness value =>
      simp only [check] at checked
      simp [Field.apply, checked, setting, Setting.tell]
  | layer id part =>
      cases part with
      | brightness value =>
          simp only [check] at checked
          simp [Field.apply, LayerField.apply, checked, setting, LayerField.setting, Setting.tell]
      | color value =>
          simp only [setting, LayerField.setting, ← value.toBytes_eq]
          rfl
      | transform value =>
          simp only [setting, LayerField.setting, ← Transform.applied_eq]
          rfl
      | buffer use => cases plain
      | sidebandStream stream => cases plain
      | _ => rfl
  | clientTarget target reuse => cases plain
  | outputBuffer use => cases plain
  | _ => rfl

theorem apply_of_buffer {use : BufferRequest} (buffered : field.buffer? = some use) :
    field.apply display = setBuffer display use.kind use.slot use.reuse use.handle fun native =>
      (field.setting native).tell display := by
  cases field with
  | layer id part => cases part <;> cases buffered <;> rfl
  | _ => cases buffered <;> rfl

end Field

/-- Carrying out a field, by its three shapes. -/
inductive FieldShape (display : DisplayId) : Action Registry (Except Status Unit) → Prop where
  | refused : FieldShape display (pure (.error .badParameter))
  | setter (setting : Setting) : FieldShape display (setting.tell display)
  | buffer (use : BufferRequest) (setting : Option NativeHandle → Setting) :
      FieldShape display (setBuffer display use.kind use.slot use.reuse use.handle fun native =>
        (setting native).tell display)

theorem Field.shape (display : DisplayId) (field : Field) :
    FieldShape display (field.apply display) := by
  cases buffered : field.buffer? with
  | some use =>
      rw [apply_of_buffer buffered]
      exact .buffer use fun native => field.setting native
  | none =>
      cases checked : field.check with
      | true =>
          rw [apply_of_plain checked buffered]
          exact .setter _
      | false =>
          rw [apply_of_unchecked checked]
          exact .refused

end Scanout

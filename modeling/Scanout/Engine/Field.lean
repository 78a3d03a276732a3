import Scanout.Command
import Scanout.Display.Buffers

/-!
One field of a command at a time. Carrying out a field is at most one setter call, between finding
its buffer and storing it where the field has one. A field that fails its own check makes no call.
-/

namespace Scanout

/-- Finds the buffer of a field, tells the device of it and stores it. It is stored even if the
device refuses it, so that its reference ends in the slot or is given back; the device's refusal is
then the one that is reported. -/
def setBuffer (display : DisplayId) (kind : BufferKind) (slot : Nat) (reuse : Bool)
    (handle : Option NativeHandle)
    (tell : Option NativeHandle → Action Registry (Except Status Unit)) :
    Action Registry (Except Status Unit) := do
  match ← Registry.lookup display kind slot reuse handle with
  | .error status => return .error status
  | .ok buffer =>
      let told ← tell buffer.native
      let stored ← Registry.update display kind slot reuse buffer
      match told with
      | .error status => return .error status
      | .ok () => return stored

def LayerField.apply (display : DisplayId) (layer : LayerId) (field : LayerField) :
    Action Registry (Except Status Unit) :=
  let tell (setting : LayerSetting) : Action Registry (Except Status Unit) :=
    Action.call (.setLayer display layer setting)
  match field with
  | .cursorPosition position => tell (.cursorPosition position)
  | .buffer use =>
      setBuffer display (.layerBuffer layer) use.slot use.handle.isNone use.handle fun native =>
        tell (.buffer native use.fence)
  | .damage region => tell (.damage region)
  | .blendMode mode => tell (.blendMode mode)
  | .composition value => tell (.composition value)
  | .color value => tell (.color value.toBytes)
  | .dataspace value => tell (.dataspace value)
  | .displayFrame frame => tell (.displayFrame frame)
  | .planeAlpha alpha => tell (.planeAlpha alpha)
  | .sidebandStream stream =>
      setBuffer display (.sidebandStream layer) 0 false (some stream) fun native =>
        tell (.sidebandStream native)
  | .sourceCrop crop => tell (.sourceCrop crop)
  | .visibleRegion region => tell (.visibleRegion region)
  | .transform value => tell (.transform value.applied)
  | .zOrder order => tell (.zOrder order)
  | .metadata entries => tell (.metadata entries)
  | .metadataBlobs entries => tell (.metadataBlobs entries)
  | .brightness value =>
      if value.inUnitInterval then tell (.brightness value)
      else return .error .badParameter
  | .blockingRegion region => tell (.blockingRegion region)
  | .layerType type => tell (.layerType type)
  | .layerFlags flags => tell (.layerFlags flags)

/-- Whether a display can be set to a brightness: one in `[0, 1]`, or minus one for no backlight. -/
def Binary32.isDisplayBrightness (value : Binary32) : Bool :=
  value.inUnitInterval || value == Binary32.minusOne

def Field.apply (display : DisplayId) (field : Field) : Action Registry (Except Status Unit) :=
  let tell (setting : DisplaySetting) : Action Registry (Except Status Unit) :=
    Action.call (.setDisplay display setting)
  match field with
  | .brightness value =>
      if value.isDisplayBrightness then tell (.brightness value)
      else return .error .badParameter
  | .layer id part => part.apply display id
  | .colorTransform matrix => tell (.colorTransform matrix)
  | .clientTarget target reuse =>
      setBuffer display .clientTarget target.buffer.slot reuse target.buffer.handle fun native =>
        tell (.clientTarget native target.buffer.fence target.dataspace target.damage)
  | .outputBuffer use =>
      setBuffer display .outputBuffer use.slot use.handle.isNone use.handle fun native =>
        tell (.outputBuffer native use.fence)
  | .elapsedTime nanoseconds => tell (.elapsedTime nanoseconds)

end Scanout

import Scanout.Buffer.Native
import Scanout.Surface

/-!
Command batches as clients submit them. Every part of a command is optional and only the parts that
are present are carried out. `LayerCommand.fields` and `DisplayCommand.fields` list them in the
order in which they take effect: display brightness, the layers one after another, colour
transform, client target, output buffer. The commit step of an entry comes after all of them.
-/

namespace Scanout

/-- A buffer reference: a slot and, where the slot is to get a new buffer, its handle. -/
structure BufferUse where
  slot : Nat
  handle : Option NativeHandle := none
  fence : Option Fence := none
  deriving DecidableEq, Repr, Inhabited

structure ClientTarget where
  buffer : BufferUse
  dataspace : Dataspace := {}
  damage : List Rect := []
  deriving DecidableEq, Repr, Inhabited

inductive CommitCommand where
  | validate | acceptChanges | present | presentOrValidate
  deriving DecidableEq, Repr, Inhabited

structure LayerCommand where
  layer : LayerId
  cursorPosition : Option Point := none
  buffer : Option BufferUse := none
  damage : Option (List Rect) := none
  blendMode : Option BlendMode := none
  composition : Option Composition := none
  color : Option UnitColor := none
  dataspace : Option Dataspace := none
  displayFrame : Option Rect := none
  planeAlpha : Option Binary32 := none
  sidebandStream : Option NativeHandle := none
  sourceCrop : Option Crop := none
  visibleRegion : Option (List Rect) := none
  transform : Option Transform := none
  zOrder : Option Nat := none
  metadata : Option (List Metadata) := none
  metadataBlobs : Option (List MetadataBlob) := none
  brightness : Option Binary32 := none
  blockingRegion : Option (List Rect) := none
  deriving DecidableEq, Repr, Inhabited

/-- One entry of a batch: what one display is to be given, and how the entry ends. -/
structure DisplayCommand where
  display : DisplayId
  brightness : Option Binary32 := none
  layers : List LayerCommand := []
  colorTransform : Option ColorMatrix := none
  clientTarget : Option ClientTarget := none
  outputBuffer : Option BufferUse := none
  /-- When the frame should be shown, in nanoseconds. It goes with the two commits that
  validate. -/
  expectedPresentTime : Option Int := none
  commit : Option CommitCommand := none
  deriving DecidableEq, Repr, Inhabited

structure ExtendedLayerCommand where
  layer : LayerId
  layerType : Option LayerType := none
  layerFlags : Option Flags := none
  deriving DecidableEq, Repr, Inhabited

/-- One entry of a vendor batch. Its client target always means the buffer that its slot holds; a
handle that comes with it is ignored. -/
structure ExtendedDisplayCommand where
  display : DisplayId
  layers : List ExtendedLayerCommand := []
  clientTarget : Option ClientTarget := none
  /-- The time since the last frame, in nanoseconds. -/
  elapsedTime : Option Nat := none
  deriving DecidableEq, Repr, Inhabited

inductive LayerField where
  | cursorPosition (position : Point)
  | buffer (use : BufferUse)
  | damage (region : List Rect)
  | blendMode (mode : BlendMode)
  | composition (composition : Composition)
  | color (color : UnitColor)
  | dataspace (dataspace : Dataspace)
  | displayFrame (frame : Rect)
  | planeAlpha (alpha : Binary32)
  | sidebandStream (stream : NativeHandle)
  | sourceCrop (crop : Crop)
  | visibleRegion (region : List Rect)
  | transform (transform : Transform)
  | zOrder (order : Nat)
  | metadata (entries : List Metadata)
  | metadataBlobs (entries : List MetadataBlob)
  | brightness (value : Binary32)
  | blockingRegion (region : List Rect)
  | layerType (type : LayerType)
  | layerFlags (flags : Flags)
  deriving DecidableEq, Repr

inductive Field where
  | brightness (value : Binary32)
  | layer (layer : LayerId) (field : LayerField)
  | colorTransform (matrix : ColorMatrix)
  /-- With `reuse` the slot's own buffer is meant, whatever handle comes along. -/
  | clientTarget (target : ClientTarget) (reuse : Bool)
  | outputBuffer (use : BufferUse)
  | elapsedTime (nanoseconds : Nat)
  deriving DecidableEq, Repr

/-- The parts that are present, in order. -/
def LayerCommand.fields (command : LayerCommand) : List LayerField :=
  [ command.cursorPosition.map .cursorPosition,
    command.buffer.map .buffer,
    command.damage.map .damage,
    command.blendMode.map .blendMode,
    command.composition.map .composition,
    command.color.map .color,
    command.dataspace.map .dataspace,
    command.displayFrame.map .displayFrame,
    command.planeAlpha.map .planeAlpha,
    command.sidebandStream.map .sidebandStream,
    command.sourceCrop.map .sourceCrop,
    command.visibleRegion.map .visibleRegion,
    command.transform.map .transform,
    command.zOrder.map .zOrder,
    command.metadata.map .metadata,
    command.metadataBlobs.map .metadataBlobs,
    command.brightness.map .brightness,
    command.blockingRegion.map .blockingRegion ].filterMap fun field => field

def DisplayCommand.fields (command : DisplayCommand) : List Field :=
  (command.brightness.map .brightness).toList ++
  (command.layers.flatMap fun layer => layer.fields.map (.layer layer.layer)) ++
  (command.colorTransform.map .colorTransform).toList ++
  (command.clientTarget.map fun target =>
    .clientTarget target target.buffer.handle.isNone).toList ++
  (command.outputBuffer.map .outputBuffer).toList

def ExtendedLayerCommand.fields (command : ExtendedLayerCommand) : List LayerField :=
  (command.layerType.map .layerType).toList ++ (command.layerFlags.map .layerFlags).toList

def ExtendedDisplayCommand.fields (command : ExtendedDisplayCommand) : List Field :=
  (command.layers.flatMap fun layer => layer.fields.map (.layer layer.layer)) ++
  (command.clientTarget.map (.clientTarget · true)).toList ++
  (command.elapsedTime.map .elapsedTime).toList

end Scanout

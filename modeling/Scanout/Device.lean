import Scanout.Capture.Basic
import Scanout.Payload

/-!
The calls that a display device answers. Setters and teardown calls only succeed or fail. Lists are
asked for twice: the first call returns the number of entries to make room for, the second fills
the room.
-/

namespace Scanout

inductive DisplaySetting where
  | brightness (value : Binary32)
  | colorTransform (matrix : ColorMatrix)
  | clientTarget (target : Option NativeHandle) (fence : Option Fence) (dataspace : Dataspace)
      (damage : List Rect)
  | outputBuffer (buffer : Option NativeHandle) (fence : Option Fence)
  | expectedPresentTime (nanoseconds : Nat)
  | elapsedTime (nanoseconds : Nat)
  deriving DecidableEq, Repr

inductive LayerSetting where
  | cursorPosition (position : Point)
  | buffer (buffer : Option NativeHandle) (fence : Option Fence)
  | damage (region : List Rect)
  | blendMode (mode : BlendMode)
  | composition (composition : Composition)
  | color (color : ByteColor)
  | dataspace (dataspace : Dataspace)
  | displayFrame (frame : Rect)
  | planeAlpha (alpha : Binary32)
  | sidebandStream (stream : Option NativeHandle)
  | sourceCrop (crop : Crop)
  | visibleRegion (region : List Rect)
  | transform (transform : Transform)
  | zOrder (order : Nat)
  | metadata (entries : List Metadata)
  | metadataBlobs (entries : List MetadataBlob)
  | brightness (value : Binary32)
  | blockingRegion (region : List Rect)
  | layerType (type : LayerType)
  | layerFlags (flags : Flags)
  deriving DecidableEq, Repr

/-- What a device found when asked to commit a frame. -/
structure CommitOutcome where
  /-- Validation changed the composition of some layers. -/
  hasChanges : Bool := false
  /-- The frame was only prepared, and has to be presented after validation. -/
  needsCommit : Bool := false
  /-- The fence of a frame that is already on its way to the display. -/
  presentFence : Option Fence := none
  deriving DecidableEq, Repr, Inhabited

/-- What a device did with the room for a list: the entries it wrote, from the first place on, and
the number of entries it says are there. -/
structure Filled (α : Type) where
  written : List α
  reported : Nat
  deriving DecidableEq, Repr, Inhabited

/-- A call of the device. -/
inductive DeviceCall where
  /-- Installs the client that receives display events, or removes it. -/
  | setEventReceiver (client : Option ClientId)
  | capabilityCount
  | capabilities (room : Nat)
  | createLayer (display : DisplayId)
  | destroyLayer (display : DisplayId) (layer : LayerId)
  | createVirtualDisplay (width height : Nat) (format : PixelFormat)
  | destroyVirtualDisplay (display : DisplayId)
  /-- Validates the pending frame and may commit it right away, unless told to validate only. -/
  | commitOrPrepare (display : DisplayId) (validateOnly : Bool)
  | present (display : DisplayId)
  | acceptChanges (display : DisplayId)
  | changedCompositionCount (display : DisplayId)
  | changedCompositions (display : DisplayId) (room : Nat)
  | layerRequestCount (display : DisplayId)
  | layerRequests (display : DisplayId) (room : Nat)
  | releaseFenceCount (display : DisplayId)
  | releaseFences (display : DisplayId) (room : Nat)
  | targetProperty (display : DisplayId)
  | refresh (display : DisplayId)
  | setDisplay (display : DisplayId) (setting : DisplaySetting)
  | setLayer (display : DisplayId) (layer : LayerId) (setting : LayerSetting)
  /-- Queues a buffer as the target of a capture. Its completion is reported later. -/
  | submitCapture (display : DisplayId) (buffer : NativeHandle) (config : CaptureConfig)
  deriving DecidableEq, Repr

namespace DeviceCall

abbrev Reply : DeviceCall → Type
  | setEventReceiver _ => Unit
  | capabilityCount => Nat
  | capabilities _ => Filled Int
  | createLayer _ => Except Status LayerId
  | createVirtualDisplay .. => Except Status (DisplayId × PixelFormat)
  | commitOrPrepare .. => Except Status CommitOutcome
  | present _ => Except Status (Option Fence)
  | changedCompositionCount _ | releaseFenceCount _ => Except Status Nat
  | changedCompositions .. => Except Status (Filled ChangedLayer)
  | layerRequestCount _ => Except Status (Flags × Nat)
  | layerRequests .. => Except Status (Flags × Filled LayerRequest)
  | releaseFences .. => Except Status (Filled ReleaseFence)
  | targetProperty _ => Except Status TargetProperty
  | destroyLayer .. | destroyVirtualDisplay _ | acceptChanges _ | refresh _ | setDisplay ..
  | setLayer .. | submitCapture .. => Except Status Unit

def display? : DeviceCall → Option DisplayId
  | setEventReceiver _ | capabilityCount | capabilities _ | createVirtualDisplay .. => none
  | createLayer display | destroyLayer display _ | destroyVirtualDisplay display
  | commitOrPrepare display _ | present display | acceptChanges display
  | changedCompositionCount display | changedCompositions display _
  | layerRequestCount display | layerRequests display _
  | releaseFenceCount display | releaseFences display _
  | targetProperty display | refresh display
  | setDisplay display _ | setLayer display _ _ | submitCapture display _ _ => some display

def isSetter : DeviceCall → Bool
  | setDisplay .. | setLayer .. => true
  | _ => false

end DeviceCall
end Scanout

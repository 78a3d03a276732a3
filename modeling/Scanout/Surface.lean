import Scanout.Binary32

/-!
The values that describe how a layer looks and where it lies. The service hands nearly all of them
to the device untouched; only colours and transforms change on the way.
-/

namespace Scanout

/-- An integer rectangle, exclusive on the right and at the bottom. -/
structure Rect where
  left : Int := 0
  top : Int := 0
  right : Int := 0
  bottom : Int := 0
  deriving DecidableEq, Repr, Inhabited

/-- A source crop, in fractions of buffer pixels. -/
structure Crop where
  left : Binary32
  top : Binary32
  right : Binary32
  bottom : Binary32
  deriving DecidableEq, Repr, Inhabited

structure Point where
  x : Int
  y : Int
  deriving DecidableEq, Repr, Inhabited

/-- A colour as clients send it, each channel nominally in `[0, 1]`. -/
structure UnitColor where
  red : Binary32
  green : Binary32
  blue : Binary32
  alpha : Binary32
  deriving DecidableEq, Repr, Inhabited

structure ByteColor where
  red : UInt8
  green : UInt8
  blue : UInt8
  alpha : UInt8
  deriving DecidableEq, Repr, Inhabited

def UnitColor.toBytes (color : UnitColor) : ByteColor where
  red := color.red.toChannel
  green := color.green.toChannel
  blue := color.blue.toChannel
  alpha := color.alpha.toChannel

abbrev ColorMatrix := Vector Binary32 16

inductive Composition where
  | invalid | client | device | solidColor | cursor | sideband | displayDecoration
  | refreshRateIndicator
  deriving DecidableEq, Repr, Inhabited

inductive BlendMode where
  | invalid | none | premultiplied | coverage
  deriving DecidableEq, Repr, Inhabited

inductive LayerType where
  | unknown | app | game | browser
  deriving DecidableEq, Repr, Inhabited

inductive DimmingStage where
  | none | linear | gamma
  deriving DecidableEq, Repr, Inhabited

inductive PixelFormat where
  | rgba8888 | rgbx8888 | argb8888 | xrgb8888 | rgb565 | rgbaFp16 | rgba1010102 | nv12
  deriving DecidableEq, Repr, Inhabited

/-- A colour space code that only the device reads. -/
structure Dataspace where
  code : Int := 0
  deriving DecidableEq, Repr, Inhabited

/-- A synchronisation fence, by its file descriptor. -/
structure Fence where
  fd : Int
  deriving DecidableEq, Repr, Inhabited

/-- A set of flags by its bits. Bits without a meaning are kept. -/
structure Flags where
  bits : UInt32 := 0
  deriving DecidableEq, Repr, Inhabited

namespace Flags

def empty : Flags := ⟨0⟩

def isEmpty (flags : Flags) : Bool := flags.bits == 0

def contains (flags wanted : Flags) : Bool := flags.bits &&& wanted.bits == wanted.bits

def union (first second : Flags) : Flags := ⟨first.bits ||| second.bits⟩

/-- Only the bits that `known` has as well. -/
def restrict (flags known : Flags) : Flags := ⟨flags.bits &&& known.bits⟩

end Flags

/-- A layer transform: mirroring and rotation bits. -/
abbrev Transform := Flags

namespace Transform

def flipHorizontal : Transform := ⟨1⟩
def flipVertical : Transform := ⟨2⟩
def rotate90 : Transform := ⟨4⟩
def rotate180 : Transform := flipHorizontal.union flipVertical
def rotate270 : Transform := rotate180.union rotate90

/-- Says that the client could not express the rotation. -/
def invalidHint : Transform := ⟨128⟩

/-- The transforms that have a name, with that name. -/
def named : List (String × Transform) :=
  [("FLIP_H", flipHorizontal), ("FLIP_V", flipVertical), ("ROT_90", rotate90),
    ("ROT_180", rotate180), ("ROT_270", rotate270), ("INVALID_HINT", invalidHint)]

def known : Transform := rotate270.union invalidHint

/-- The transform that a device is told: one marked as invalid is applied as none. -/
def applied (transform : Transform) : Transform :=
  if transform.contains invalidHint then Flags.empty else transform

end Transform

structure Metadata where
  key : Int
  value : Binary32
  deriving DecidableEq, Repr, Inhabited

/-- One entry of a layer's per-frame metadata that is not a number. -/
structure MetadataBlob where
  key : Int
  bytes : List UInt8
  deriving DecidableEq, Repr, Inhabited

/-- What the device wants the client target to be rendered in. -/
structure TargetProperty where
  format : PixelFormat := .rgba8888
  dataspace : Dataspace := {}
  deriving DecidableEq, Repr, Inhabited

end Scanout

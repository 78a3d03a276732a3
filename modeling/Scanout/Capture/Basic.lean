import Scanout.Buffer.Handle
import Scanout.Surface

/-!
Captures: copies of what a display shows, written into a client's buffer.
-/

namespace Scanout

structure CaptureConfig where
  /-- In display coordinates. -/
  region : Rect := {}
  /-- After post-processing, instead of the blended layers. -/
  postProcessed : Bool := false
  /-- The region of a partial update takes the place of `region`. -/
  partialUpdateRegion : Bool := false
  /-- Do not refresh the display for the capture's sake. -/
  avoidRefresh : Bool := false
  deriving DecidableEq, Repr, Inhabited

inductive CaptureStatus where
  | success | failure
  deriving DecidableEq, Repr, Inhabited

/-- Devices report zero for success and anything else for failure. -/
def CaptureStatus.ofCode (code : Int) : CaptureStatus := if code = 0 then .success else .failure

structure CaptureListener where
  number : Nat
  deriving DecidableEq, Repr, Inhabited

end Scanout

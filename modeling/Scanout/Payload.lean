import Scanout.Id
import Scanout.Status
import Scanout.Surface

/-!
What a batch reports back: a list of payloads, in the order in which they arose. A failed command
gives an error under the number of its entry; commits give the results of validation and the
fences of the frame.
-/

namespace Scanout

/-- A layer whose composition the device wants changed. -/
structure ChangedLayer where
  layer : LayerId := ⟨0⟩
  composition : Composition := .invalid
  deriving DecidableEq, Repr, Inhabited

structure LayerRequest where
  layer : LayerId := ⟨0⟩
  mask : Flags := {}
  deriving DecidableEq, Repr, Inhabited

/-- When a layer's buffer can be used again. -/
structure ReleaseFence where
  layer : LayerId := ⟨0⟩
  fence : Option Fence := none
  deriving DecidableEq, Repr, Inhabited

inductive PresentOutcome where
  | validated | presented | validatedWithChanges
  deriving DecidableEq, Repr, Inhabited

inductive Payload where
  | error (entry : Nat) (status : Status)
  | changedCompositions (display : DisplayId) (layers : List ChangedLayer)
  | displayRequest (display : DisplayId) (mask : Flags) (layers : List LayerRequest)
  | presentFence (display : DisplayId) (fence : Fence)
  | releaseFences (display : DisplayId) (layers : List (LayerId × Fence))
  | presentOutcome (display : DisplayId) (outcome : PresentOutcome)
  | targetProperty (display : DisplayId) (property : TargetProperty) (brightness : Binary32)
      (dimming : DimmingStage)
  deriving DecidableEq, Repr

structure PayloadWriter where
  pending : List Payload := []
  deriving DecidableEq, Repr, Inhabited

namespace PayloadWriter

def write (writer : PayloadWriter) (payload : Payload) : PayloadWriter :=
  ⟨writer.pending ++ [payload]⟩

/-- Writes nothing for a frame without a present fence. -/
def writePresentFence (writer : PayloadWriter) (display : DisplayId) (fence : Option Fence) :
    PayloadWriter :=
  match fence with
  | some fence => writer.write (.presentFence display fence)
  | none => writer

/-- Leaves out the layers that have no fence. -/
def writeReleaseFences (writer : PayloadWriter) (display : DisplayId)
    (fences : List ReleaseFence) : PayloadWriter :=
  writer.write (.releaseFences display
    (fences.filterMap fun release => release.fence.map (release.layer, ·)))

/-- Hands out everything written and leaves the writer empty. -/
def take (writer : PayloadWriter) : List Payload × PayloadWriter := (writer.pending, {})

end PayloadWriter
end Scanout

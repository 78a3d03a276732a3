import Scanout.Action
import Scanout.Query

/-!
Device capabilities. The service advertises those it knows, in its own order; a device that reports
nothing at all is not supported.
-/

namespace Scanout

inductive Capability where
  | sidebandStream | skipValidate
  deriving DecidableEq, Repr, Inhabited

namespace Capability

/-- What can be advertised, in advertising order. -/
def all : List Capability := [sidebandStream, skipValidate]

def code : Capability → Int
  | sidebandStream => 1
  | skipValidate => 4

/-- The capabilities of a device that the service knows. -/
def advertised {σ : Type} : Action σ (Except Status (List Capability)) := do
  let count : Action σ (Except Status Nat) := .ok <$> Action.call .capabilityCount
  let fill (room : Nat) : Action σ (Except Status (Filled Int)) :=
    .ok <$> Action.call (.capabilities room)
  match ← querySized count fill with
  | .error status => return .error status
  | .ok [] => return .error .unsupported
  | .ok codes => return .ok (all.filter fun capability => codes.contains capability.code)

end Capability
end Scanout

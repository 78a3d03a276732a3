/-!
Status codes: why the service or a device refused a request.
-/

namespace Scanout

inductive Status where
  | badConfig
  | badDisplay
  | badLayer
  | badParameter
  /-- A buffer reference, the client slot or a worker could not be had. -/
  | noResources
  | notValidated
  | unsupported
  deriving DecidableEq, Repr, Inhabited

namespace Status

def all : List Status :=
  [badConfig, badDisplay, badLayer, badParameter, noResources, notValidated, unsupported]

/-- The number that clients see. Five is not used. -/
def code : Status → Nat
  | badConfig => 1
  | badDisplay => 2
  | badLayer => 3
  | badParameter => 4
  | noResources => 6
  | notValidated => 7
  | unsupported => 8

def message : Status → String
  | badConfig => "bad config"
  | badDisplay => "bad display"
  | badLayer => "bad layer"
  | badParameter => "bad parameter"
  | noResources => "no resources"
  | notValidated => "not validated"
  | unsupported => "unsupported"

theorem mem_all (status : Status) : status ∈ all := by
  cases status <;> decide

theorem code_injective {first second : Status} (same : first.code = second.code) :
    first = second := by
  cases first <;> cases second <;> simp [code] at same ⊢

end Status
end Scanout

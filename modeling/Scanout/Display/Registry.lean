import Scanout.Display.Basic

/-!
The live displays. Operations that drop handles return them with the new registry, in the order in
which they are let go.
-/

namespace Scanout

structure Registry where
  displays : Table DisplayId Display := ∅

namespace Registry

instance : EmptyCollection Registry := ⟨⟨∅⟩⟩

instance : Inhabited Registry := ⟨∅⟩

def contains (registry : Registry) (id : DisplayId) : Bool := registry.displays.contains id

def display (registry : Registry) (id : DisplayId) : Except Status Display :=
  match registry.displays[id]? with
  | some display => .ok display
  | none => .error .badDisplay

def putDisplay (registry : Registry) (id : DisplayId) (display : Display) : Registry :=
  ⟨registry.displays.insert id display⟩

def handles (registry : Registry) : List Handle :=
  registry.displays.toList.flatMap fun (_, display) => display.handles

/-- Adds a display with empty slots. One that is there already stays as it is, and the answer is
`false`. -/
def addDisplay (registry : Registry) (id : DisplayId) (isVirtual : Bool)
    (clientTargetSlots outputSlots : Nat) : Bool × Registry :=
  if registry.contains id then (false, registry)
  else (true, registry.putDisplay id (.ofSize isVirtual clientTargetSlots outputSlots))

def removeDisplay (registry : Registry) (id : DisplayId) :
    Except Status (Registry × List Handle) := do
  let display ← registry.display id
  .ok (⟨registry.displays.erase id⟩, display.handles)

/-- Adds a layer with empty slots, in the place of one with the same identity. -/
def addLayer (registry : Registry) (id : DisplayId) (layer : LayerId) (slots : Nat) :
    Except Status (Registry × List Handle) := do
  let display ← registry.display id
  let layers := display.layers.insert layer (.ofSize slots)
  .ok (registry.putDisplay id { display with layers },
    (display.layers[layer]?.map Layer.handles).getD [])

def removeLayer (registry : Registry) (id : DisplayId) (layer : LayerId) :
    Except Status (Registry × List Handle) := do
  let display ← registry.display id
  let removed ← display.layer layer
  let layers := display.layers.erase layer
  .ok (registry.putDisplay id { display with layers }, removed.handles)

def resizeClientTargets (registry : Registry) (id : DisplayId) (count : Nat) :
    Except Status (Registry × List Handle) := do
  let display ← registry.display id
  let (cache, released) := display.clientTargets.resize count
  .ok (registry.putDisplay id { display with clientTargets := cache }, released)

def resizeLayerBuffers (registry : Registry) (id : DisplayId) (layer : LayerId) (count : Nat) :
    Except Status (Registry × List Handle) := do
  let display ← registry.display id
  let kept ← display.layer layer
  let (cache, released) := kept.buffers.resize count
  .ok (registry.putDisplay id
    { display with layers := display.layers.insert layer { kept with buffers := cache } }, released)

/-- The content of a slot. The display is looked for before anything on it. -/
def content (registry : Registry) (id : DisplayId) (kind : BufferKind) (slot : Nat) :
    Except Status (Option Handle) := do
  (← registry.display id).content kind slot

/-- Replaces the content of a slot, and returns what it held. -/
def store (registry : Registry) (id : DisplayId) (kind : BufferKind) (slot : Nat)
    (content : Option Handle) : Except Status (Registry × Option Handle) := do
  let (display, held) ← (← registry.display id).store kind slot content
  .ok (registry.putDisplay id display, held)

def commitTracker (registry : Registry) (id : DisplayId) : Except Status CommitTracker := do
  .ok (← registry.display id).commit

def updateCommit (registry : Registry) (id : DisplayId)
    (change : CommitTracker → CommitTracker) : Except Status Registry := do
  let display ← registry.display id
  .ok (registry.putDisplay id { display with commit := change display.commit })

/-- The displays with their layers, both ascending. -/
def snapshot (registry : Registry) : List (DisplayId × Bool × List LayerId) :=
  registry.displays.toList.map fun (id, display) => (id, display.isVirtual, display.layers.keys)

end Registry
end Scanout

import Scanout.Buffer.SlotCache

/-!
What the service keeps for one display: the buffers of its client target, its output and its
layers, and how far its current frame has come.
-/

namespace Scanout

inductive CommitState where
  | idle | validating | validated | validatedWithChanges | presenting | presented
  deriving DecidableEq, Repr, Inhabited

structure CommitTracker where
  state : CommitState := .idle
  /-- Validation reported changes that the client has not accepted. -/
  pendingChanges : Bool := false
  deriving DecidableEq, Repr, Inhabited

structure Layer where
  buffers : SlotCache := {}
  sidebandStream : Option Handle := none
  deriving DecidableEq, Repr, Inhabited

def Layer.ofSize (count : Nat) : Layer := { buffers := .ofSize count }

/-- What the layer holds, in the order in which it is let go. -/
def Layer.handles (layer : Layer) : List Handle :=
  layer.buffers.handles ++ layer.sidebandStream.toList

inductive BufferKind where
  | clientTarget
  /-- Physical displays have no output slots. -/
  | outputBuffer
  | layerBuffer (layer : LayerId)
  /-- The one stream of a layer, in slot zero. -/
  | sidebandStream (layer : LayerId)
  deriving DecidableEq, Repr

structure Display where
  isVirtual : Bool
  clientTargets : SlotCache := {}
  outputBuffers : SlotCache := {}
  layers : Table LayerId Layer := ∅
  commit : CommitTracker := {}

namespace Display

def ofSize (isVirtual : Bool) (clientTargetSlots outputSlots : Nat) : Display where
  isVirtual
  clientTargets := .ofSize clientTargetSlots
  outputBuffers := .ofSize outputSlots

/-- What the display holds, in the order in which it is let go: layer by layer, then the client
target slots, then the output slots. -/
def handles (display : Display) : List Handle :=
  (display.layers.toList.flatMap fun (_, layer) => layer.handles) ++
    display.clientTargets.handles ++ display.outputBuffers.handles

def layer (display : Display) (id : LayerId) : Except Status Layer :=
  match display.layers[id]? with
  | some layer => .ok layer
  | none => .error .badLayer

/-- The content of a slot that exists. The layer is looked for before the slot. -/
def content (display : Display) (kind : BufferKind) (slot : Nat) :
    Except Status (Option Handle) :=
  match kind with
  | .clientTarget => (display.clientTargets.get slot).mapError BufferError.status
  | .outputBuffer => (display.outputBuffers.get slot).mapError BufferError.status
  | .layerBuffer id => do
      let layer ← display.layer id
      (layer.buffers.get slot).mapError BufferError.status
  | .sidebandStream id => do
      let layer ← display.layer id
      if slot = 0 then .ok layer.sidebandStream else .error .badParameter

/-- Replaces the content of a slot that exists, and returns what it held. -/
def store (display : Display) (kind : BufferKind) (slot : Nat) (content : Option Handle) :
    Except Status (Display × Option Handle) :=
  match kind with
  | .clientTarget => do
      let (cache, held) ← (display.clientTargets.put slot content).mapError BufferError.status
      .ok ({ display with clientTargets := cache }, held)
  | .outputBuffer => do
      let (cache, held) ← (display.outputBuffers.put slot content).mapError BufferError.status
      .ok ({ display with outputBuffers := cache }, held)
  | .layerBuffer id => do
      let layer ← display.layer id
      let (cache, held) ← (layer.buffers.put slot content).mapError BufferError.status
      .ok ({ display with layers := display.layers.insert id { layer with buffers := cache } },
        held)
  | .sidebandStream id => do
      let layer ← display.layer id
      if slot = 0 then
        .ok ({ display with
          layers := display.layers.insert id { layer with sidebandStream := content } },
          layer.sidebandStream)
      else .error .badParameter

end Display
end Scanout

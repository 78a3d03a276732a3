import Scanout.Display.Buffers

/-!
The slots as a client thinks of them: one partial map from addresses to contents. An address is
part of the map as long as its slot lies below the count that the display has for that kind of
buffer. How the service nests its caches does not show.
-/

namespace Scanout

/-- The layer whose buffers are meant, if they are those of a layer. -/
def BufferKind.layer? : BufferKind → Option LayerId
  | layerBuffer id | sidebandStream id => some id
  | clientTarget | outputBuffer => none

/-- Where a buffer is kept. -/
structure SlotAddress where
  display : DisplayId
  kind : BufferKind
  slot : Nat
  deriving DecidableEq, Repr

/-- Which displays and layers are live, how many slots they have, and what each slot holds. -/
@[ext]
structure SlotMap where
  displays : DisplayId → Bool
  layers : DisplayId → LayerId → Bool
  count : DisplayId → BufferKind → Nat
  content : SlotAddress → Option (Option NativeHandle)
  domain (address : SlotAddress) :
    (content address).isSome = decide (address.slot < count address.display address.kind)

namespace SlotMap

instance : EmptyCollection SlotMap where
  emptyCollection :=
    { displays := fun _ => false
      layers := fun _ _ => false
      count := fun _ _ => 0
      content := fun _ => none
      domain := fun _ => by simp }

/-- A result about a display and, if one is named, a layer. The display is looked for first. -/
def located {α : Type} (map : SlotMap) (id : DisplayId) (layer? : Option LayerId)
    (result : Except Status α) : Except Status α :=
  if !map.displays id then .error .badDisplay
  else if layer?.any fun layer => !map.layers id layer then .error .badLayer
  else result

/-- The content of an address, or the first reason why it has none. -/
def read (map : SlotMap) (address : SlotAddress) : Except Status (Option NativeHandle) :=
  map.located address.display address.kind.layer?
    ((map.content address).elim (.error .badParameter) .ok)

/-- Replaces the content of one address. All others keep theirs. -/
def put (map : SlotMap) (address : SlotAddress) (content : Option NativeHandle) : SlotMap :=
  { map with
    content := fun other =>
      if other = address then (map.content other).map fun _ => content else map.content other
    domain := fun other => by
      by_cases same : other = address
      · rw [if_pos same, Option.isSome_map, map.domain]
      · rw [if_neg same, map.domain] }

/-- Writes to an address that can be read. -/
def write (map : SlotMap) (address : SlotAddress) (content : Option NativeHandle) :
    Except Status SlotMap :=
  (map.read address).map fun _ => map.put address content

/-- Gives the chosen kinds of buffers new slots, all empty. -/
def renew (map : SlotMap) (chosen : DisplayId → BufferKind → Bool) (count : BufferKind → Nat) :
    SlotMap :=
  { map with
    count := fun display kind => if chosen display kind then count kind else map.count display kind
    content := fun address =>
      if chosen address.display address.kind then
        if address.slot < count address.kind then some none else none
      else map.content address
    domain := fun address => by
      by_cases new : chosen address.display address.kind
      · by_cases inside : address.slot < count address.kind <;> simp [new, inside]
      · simp [new, map.domain] }

/-- Shrinks or grows the slots of one kind. Those below both counts keep their content, those that
are new are empty. -/
def resize (map : SlotMap) (id : DisplayId) (resized : BufferKind) (count : Nat) : SlotMap :=
  { map with
    count := fun display kind =>
      if display = id ∧ kind = resized then count else map.count display kind
    content := fun address =>
      if address.display = id ∧ address.kind = resized then
        if address.slot < count then some (map.content address).join else none
      else map.content address
    domain := fun address => by
      by_cases meant : address.display = id ∧ address.kind = resized
      · by_cases inside : address.slot < count <;> simp [meant, inside]
      · simp [meant, map.domain] }

/-- Adds a display whose slots are empty and which has no layers. One that is live stays as it
is. -/
def addDisplay (map : SlotMap) (id : DisplayId) (clientTargetSlots outputSlots : Nat) :
    Bool × SlotMap :=
  if map.displays id then (false, map)
  else
    (true,
      { map.renew (fun display _ => display == id) (fun
          | .clientTarget => clientTargetSlots
          | .outputBuffer => outputSlots
          | .layerBuffer _ | .sidebandStream _ => 0) with
        displays := fun display => display == id || map.displays display
        layers := fun display layer => display != id && map.layers display layer })

def removeDisplay (map : SlotMap) (id : DisplayId) : Except Status SlotMap :=
  map.located id none <| .ok
    { map.renew (fun display _ => display == id) (fun _ => 0) with
      displays := fun display => display != id && map.displays display
      layers := fun display layer => display != id && map.layers display layer }

/-- Adds a layer with empty slots and no stream, in the place of one with the same identity. -/
def addLayer (map : SlotMap) (id : DisplayId) (layer : LayerId) (slots : Nat) :
    Except Status SlotMap :=
  map.located id none <| .ok
    { map.renew (fun display kind => display == id && kind.layer? == some layer) (fun
        | .layerBuffer _ => slots
        | .sidebandStream _ => 1
        | .clientTarget | .outputBuffer => 0) with
      layers := fun display other => (display == id && other == layer) || map.layers display other }

def removeLayer (map : SlotMap) (id : DisplayId) (layer : LayerId) : Except Status SlotMap :=
  map.located id (some layer) <| .ok
    { map.renew (fun display kind => display == id && kind.layer? == some layer) (fun _ => 0) with
      layers := fun display other => !(display == id && other == layer) && map.layers display other }

def resizeClientTargets (map : SlotMap) (id : DisplayId) (count : Nat) : Except Status SlotMap :=
  map.located id none (.ok (map.resize id .clientTarget count))

def resizeLayerBuffers (map : SlotMap) (id : DisplayId) (layer : LayerId) (count : Nat) :
    Except Status SlotMap :=
  map.located id (some layer) (.ok (map.resize id (.layerBuffer layer) count))

end SlotMap
end Scanout

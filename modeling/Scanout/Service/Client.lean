import Scanout.Engine.Batch
import Scanout.Service.Capability
import Scanout.Service.Events

/-!
What a client can ask of the service, from its creation to its departure. Operations that involve
the device call it first and keep their books afterwards; when the display was lost in between, the
books have nothing to keep and the operation fails without a second call to the device.
-/

namespace Scanout.Service

/-- Creates a client. Only one is served at a time; a new one waits for the one before it to
depart, for as long as the service is set up to. -/
def createClient : Action Service (Except Status ClientId) := do
  if (← get).occupied then
    Action.ask (.awaitDeparture (← get).handoverTimeout)
    if (← get).occupied then return .error .noResources
  let id ← modifyGet fun service =>
    let id : ClientId := ⟨service.nextClient⟩
    (id, { service with
      occupied := true
      clients := service.clients.insert id {}
      nextClient := service.nextClient + 1 })
  Action.call (.setEventReceiver (some id))
  return .ok id

/-- Registers whom to tell of events, and starts telling. -/
def registerListener (id : ClientId) (listener : EventListener) : Action Service Unit :=
  modify fun service => service.modifyClient id fun client =>
    { client with listener := some listener, eventsEnabled := true }

def createLayer (id : ClientId) (display : DisplayId) (slots : Nat) :
    Action Service (Except Status LayerId) := do
  match ← Action.call (.createLayer display) with
  | .error status => return .error status
  | .ok layer =>
      let added ← onRegistry id (Registry.change (·.addLayer display layer slots))
      return added.map fun () => layer

def destroyLayer (id : ClientId) (display : DisplayId) (layer : LayerId) :
    Action Service (Except Status Unit) := do
  match ← Action.call (.destroyLayer display layer) with
  | .error status => return .error status
  | .ok () => onRegistry id (Registry.change (·.removeLayer display layer))

/-- Creates a virtual display. The device chooses its identity and may choose another format. -/
def createVirtualDisplay (id : ClientId) (width height : Nat) (format : PixelFormat)
    (outputSlots : Nat) : Action Service (Except Status (DisplayId × PixelFormat)) := do
  match ← Action.call (.createVirtualDisplay width height format) with
  | .error status => return .error status
  | .ok (display, chosen) =>
      modify fun service => service.modifyClient id fun client =>
        { client with
          registry :=
            (client.registry.addDisplay display true
              service.initialClientTargetSlots outputSlots).2 }
      return .ok (display, chosen)

def destroyVirtualDisplay (id : ClientId) (display : DisplayId) :
    Action Service (Except Status Unit) := do
  match ← Action.call (.destroyVirtualDisplay display) with
  | .error status => return .error status
  | .ok () =>
      match ← dropDisplay id display with
      | .error status => return .error status
      | .ok () =>
          dropCaptures display
          return .ok ()

def resizeClientTargets (id : ClientId) (display : DisplayId) (count : Nat) :
    Action Service (Except Status Unit) :=
  onRegistry id (Registry.change (·.resizeClientTargets display count))

def resizeLayerBuffers (id : ClientId) (display : DisplayId) (layer : LayerId) (count : Nat) :
    Action Service (Except Status Unit) :=
  onRegistry id (Registry.change (·.resizeLayerBuffers display layer count))

def execute (id : ClientId) (commands : List DisplayCommand) :
    Action Service (Except Status (List Payload)) :=
  onRegistry id ((EngineAction.execute commands).run' {})

def executeExtended (id : ClientId) (commands : List ExtendedDisplayCommand) :
    Action Service (Except Status (List Payload)) :=
  onRegistry id ((EngineAction.executeExtended commands).run' {})

def postCapture (id : ClientId) (display : DisplayId) (config : CaptureConfig)
    (buffer : NativeHandle) (listener : CaptureListener) :
    Action Service (Except Status Unit) := do
  if ((← get).registry id).contains display then
    onCaptures (Pipeline.post display config buffer listener)
  else return .error .badDisplay

def completeCapture (display : DisplayId) (code : Int) (buffer : BufferId) :
    Action Service (Except Status Unit) := do
  match (← get).captures.complete display code buffer with
  | .error status => return .error status
  | .ok captures =>
      modify fun service => { service with captures }
      return .ok ()

/-- Shows the last frame of a physical display: accepts and presents it if it validates. -/
def presentFinally (display : DisplayId) : Action Service Unit := do
  match ← Action.call (.commitOrPrepare display true) with
  | .error _ => return ()
  | .ok _ =>
      let _ ← Action.call (.acceptChanges display)
      let _ ← Action.call (.present display)

/-- Lets go of one display of a departing client. The device's failures change nothing. -/
def retireDisplay (id : ClientId) (display : DisplayId) (isVirtual : Bool)
    (layers : List LayerId) : Action Service Unit := do
  layers.forM fun layer => do
    let _ ← Action.call (.destroyLayer display layer)
  if isVirtual then
    let _ ← Action.call (.destroyVirtualDisplay display)
    dropCaptures display
  else presentFinally display
  let _ ← dropDisplay id display

/-- A client departs: it hears of no more events, everything it has is let go, display by display,
and the client slot becomes free. -/
def dropClient (id : ClientId) : Action Service Unit := do
  modify fun service => service.modifyClient id fun client => { client with eventsEnabled := false }
  Action.call (.setEventReceiver none)
  ((← get).registry id).snapshot.forM fun (display, isVirtual, layers) =>
    retireDisplay id display isVirtual layers
  modify fun service => { service with occupied := false }

end Scanout.Service

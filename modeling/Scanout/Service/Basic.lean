import Scanout.Capture.Pipeline
import Scanout.Display.Buffers

/-!
The service: one device, the captures of all displays, and a slot for one client at a time. A
client has the displays that it was told of or created. What the device reports about displays goes
to the client that is installed as the receiver; it passes events on to its listener from the
moment one is registered until it departs.
-/

namespace Scanout

/-- The display that is refreshed after another one was lost. -/
def primaryDisplay : DisplayId := ⟨0⟩

/-- What is kept of a client. Events that reach one that has departed find it disabled. -/
structure Client where
  registry : Registry := ∅
  listener : Option EventListener := none
  eventsEnabled : Bool := false

instance : Inhabited Client := ⟨{}⟩

/-- The listener that is told of events, while there is one to tell. -/
def Client.activeListener (client : Client) : Option EventListener :=
  if client.eventsEnabled then client.listener else none

structure Service where
  /-- The client target slots that a new display starts with. -/
  initialClientTargetSlots : Nat := 0
  /-- How long a new client waits for the one before it. -/
  handoverTimeout : Nat := 0
  captures : Pipeline := {}
  clients : Table ClientId Client := ∅
  nextClient : Nat := 0
  occupied : Bool := false

namespace Service

instance : Inhabited Service := ⟨{}⟩

def client (service : Service) (id : ClientId) : Client := service.clients[id]?.getD {}

def modifyClient (service : Service) (id : ClientId) (change : Client → Client) : Service :=
  { service with clients := service.clients.insert id (change (service.client id)) }

def registry (service : Service) (id : ClientId) : Registry := (service.client id).registry

def onRegistry {α : Type} (id : ClientId) (action : Action Registry α) : Action Service α :=
  action.within (·.registry id) fun registry service =>
    service.modifyClient id fun client => { client with registry }

def onCaptures {α : Type} (action : Action Pipeline α) : Action Service α :=
  action.within captures fun captures service => { service with captures }

/-- Removes a display from a client, and lets go of everything the display held. -/
def dropDisplay (id : ClientId) (display : DisplayId) : Action Service (Except Status Unit) :=
  onRegistry id (Registry.change (·.removeDisplay display))

def dropCaptures (display : DisplayId) : Action Service Unit :=
  modify fun service => { service with captures := service.captures.removeDisplay display }

end Service
end Scanout

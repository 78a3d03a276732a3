import Mathlib.Logic.Relation
import Scanout.Proofs.Clients.Ledger
import Scanout.Proofs.Reentry
import Scanout.Service.Client
import Scanout.Service.Setup

/-!
The service among those who use it. A client is served from its creation until it departs; it makes
calls, its listener hears of displays, the device completes captures and workers tell of them. Any of
these may turn to the device or a listener, which may come back with more of them before it replies,
to any depth. Beside the service the world keeps notes of what succeeded and of what is under way.
-/

namespace Scanout

/-- What somebody is in the middle of. -/
inductive Underway where
  | call (client : ClientId)
  | departure (client : ClientId)
  /-- A step of a worker. -/
  | delivery (session : SessionId) (worker : Nat)
  deriving DecidableEq, Repr

structure World where
  service : Service
  history : List Note := []
  /-- The client that was created and has not departed. -/
  occupant : Option ClientId := none
  /-- Innermost first. -/
  underway : List Underway := []

namespace World

variable {α : Type}

/-- The client may make calls. -/
def Serves (world : World) (id : ClientId) : Prop :=
  world.occupant = some id ∧ .departure id ∉ world.underway

def noted (world : World) (notes : List Note) : World :=
  { world with history := world.history ++ notes }

def onService (action : Action Service α) : Action World α :=
  action.within service fun service world => { world with service }

def pushed (world : World) (entry : Underway) : World :=
  { world with underway := entry :: world.underway }

def popped (world : World) : World := { world with underway := world.underway.tail }

def during (entry : Underway) (action : Action World Unit) : Action World Unit := do
  modify (·.pushed entry)
  action
  modify popped

/-- A call of a client, noted once it has succeeded. -/
def serve (id : ClientId) (call : Action Service (Except Status α)) (notes : α → List Note) :
    Action World Unit :=
  during (.call id) do
    match ← onService call with
    | .ok value => modify (·.noted (notes value))
    | .error _ => return ()

/-- A display that is connected is noted before the listener hears of it, one that is disconnected
once it has been forgotten. -/
def receive (id : ClientId) (event : DisplayEvent) : Action World Unit := do
  let listening := ((← get).service.client id).activeListener.isSome
  match listening, event.kind with
  | true, .hotplug true =>
      modify (·.noted [.displayAdded id event.display false])
      onService (Service.receive id event)
  | true, .hotplug false =>
      onService (Service.receive id event)
      modify (·.noted [.displayRemoved id event.display])
  | _, _ => onService (Service.receive id event)

/-- The displays that a client retires when it departs. -/
def retirements (world : World) (id : ClientId) : List Note :=
  (world.service.registry id).snapshot.map fun (display, isVirtual, _) =>
    .retired id display isVirtual

end World

/-- What can be done to the service. -/
inductive ServiceCall where
  | createClient
  | dropClient (client : ClientId)
  | registerListener (client : ClientId) (listener : EventListener)
  | createLayer (client : ClientId) (display : DisplayId) (slots : Nat)
  | destroyLayer (client : ClientId) (display : DisplayId) (layer : LayerId)
  | createVirtualDisplay (client : ClientId) (width height : Nat) (format : PixelFormat)
      (outputSlots : Nat)
  | destroyVirtualDisplay (client : ClientId) (display : DisplayId)
  | resizeClientTargets (client : ClientId) (display : DisplayId) (count : Nat)
  | resizeLayerBuffers (client : ClientId) (display : DisplayId) (layer : LayerId) (count : Nat)
  | execute (client : ClientId) (commands : List DisplayCommand)
  | executeExtended (client : ClientId) (commands : List ExtendedDisplayCommand)
  | postCapture (client : ClientId) (display : DisplayId) (config : CaptureConfig)
      (buffer : NativeHandle) (listener : CaptureListener)
  | completeCapture (display : DisplayId) (code : Int) (buffer : BufferId)
  /-- An event reaches the receiver that was installed for a client, in time or too late. -/
  | receive (client : ClientId) (event : DisplayEvent)
  /-- One step of a worker of a capture session. -/
  | work (session : SessionId) (worker : Nat)

namespace ServiceCall

open World

/-- What a call does. -/
def action : ServiceCall → Action World Unit
  | createClient => do
      match ← onService Service.createClient with
      | .ok id => modify fun world => { world with occupant := some id }
      | .error _ => return ()
  | dropClient id => during (.departure id) do
      modify fun world => world.noted (world.retirements id)
      onService (Service.dropClient id)
      modify fun world => { world with occupant := none }
  | registerListener id listener => onService (Service.registerListener id listener)
  | createLayer id display slots =>
      serve id (Service.createLayer id display slots) fun layer => [.layerCreated id display layer]
  | destroyLayer id display layer =>
      serve id (Service.destroyLayer id display layer) fun _ => [.layerDestroyed id display layer]
  | createVirtualDisplay id width height format outputSlots =>
      serve id (Service.createVirtualDisplay id width height format outputSlots)
        fun created => [.displayAdded id created.1 true]
  | destroyVirtualDisplay id display =>
      serve id (Service.destroyVirtualDisplay id display) fun _ => [.displayRemoved id display]
  | resizeClientTargets id display count =>
      serve id (Service.resizeClientTargets id display count) fun _ => []
  | resizeLayerBuffers id display layer count =>
      serve id (Service.resizeLayerBuffers id display layer count) fun _ => []
  | execute id commands => serve id (Service.execute id commands) fun _ => []
  | executeExtended id commands => serve id (Service.executeExtended id commands) fun _ => []
  | postCapture id display config buffer listener =>
      serve id (Service.postCapture id display config buffer listener) fun _ => []
  | completeCapture display code buffer => onService do
      let _ ← Service.completeCapture display code buffer
  | receive id event => World.receive id event
  | work session worker =>
      during (.delivery session worker) (onService (Service.onCaptures (Pipeline.work session worker)))

/-- A client makes calls while it is served, and departs when none of them is under way. A worker
takes one step at a time. -/
def Permitted (world : World) : ServiceCall → Prop
  | dropClient id => world.Serves id ∧ .call id ∉ world.underway
  | registerListener id _ | createLayer id .. | destroyLayer id .. | createVirtualDisplay id ..
  | destroyVirtualDisplay id _ | resizeClientTargets id .. | resizeLayerBuffers id .. | execute id _
  | executeExtended id _ | postCapture id .. => world.Serves id
  | work session worker => .delivery session worker ∉ world.underway
  | createClient | completeCapture .. | receive .. => True

end ServiceCall

namespace World

/-- One call leads from a world to another, where the surroundings may change the world at each
request as `may` says. -/
def Calls (may : World → World → Prop) (before after : World) : Prop :=
  ∃ call : ServiceCall, call.Permitted before ∧ ∃ exchanges,
    (call.action.start before).Finishes (Request.Meddles may) exchanges () after

/-- Any number of calls lead from a world to another, where more may be made from within them, and
from within those, down to a depth. -/
def Happens : Nat → World → World → Prop
  | 0 => Eq
  | depth + 1 => Relation.ReflTransGen (Calls (Happens depth))

/-- What a service that starts with the settings can come to, between two calls at the top. -/
def Reached (settings : Settings) (world : World) : Prop :=
  ∃ depth, Happens depth { service := settings.service } world

end World
end Scanout

import Scanout.Proofs.References.Service
import Scanout.Service.Setup

/-!
The system as a whole: a service, an importer, the lookup results that callers keep, and every
operation that is under way. An operation that has turned to its surroundings waits, and anything
else may happen before it is answered: a device may carry out operations from inside a call, other
threads may have theirs, and each may be suspended in turn. Who is answered next, and what, is open.
-/

namespace Scanout

/-- A reply with which the device does nothing. -/
def DeviceCall.refusal : (call : DeviceCall) → call.Reply
  | setEventReceiver _ => ()
  | capabilityCount => 0
  | capabilities _ => ⟨[], 0⟩
  | createLayer _ | createVirtualDisplay .. | commitOrPrepare .. | present _
  | changedCompositionCount _ | releaseFenceCount _ | changedCompositions ..
  | layerRequestCount _ | layerRequests .. | releaseFences .. | targetProperty _
  | destroyLayer .. | destroyVirtualDisplay _ | acceptChanges _ | refresh _ | setDisplay ..
  | setLayer .. | submitCapture .. => .error .badParameter

/-- A reply that brings nothing in. -/
def Request.refusal : (request : Request) → request.Reply
  | importBuffer native => .error (.importFailed native.id "refused")
  | device call => call.refusal
  | freeBuffer _ | notify .. | captured .. | awaitDeparture _ => ()

/-- Who grants references and takes them back. -/
structure Importer (κ : Type) where
  take : κ → NativeHandle → Except BufferError Unit × κ
  give : κ → NativeHandle → κ

/-- A request may be answered like this. Only the importer is bound to anything. -/
def Importer.Answers {κ : Type} (importer : Importer κ) (before : κ) (request : Request)
    (reply : request.Reply) (after : κ) : Prop :=
  match request, reply with
  | .importBuffer native, reply => importer.take before native = (reply, after)
  | .freeBuffer native, _ => importer.give before native = after
  | .device _, _ | .notify .., _ | .captured .., _ | .awaitDeparture _, _ => after = before

/-- The counting pool as an importer. -/
def Pool.importer : Importer Pool where
  take pool native :=
    match pool.importBuffer native with
    | .ok after => (.ok (), after)
    | .error reason => (.error reason, pool)
  give := freeBuffer

/-- What can be done to the service. -/
inductive Operation where
  | addDisplay (client : ClientId) (display : DisplayId) (isVirtual : Bool)
      (clientTargetSlots outputSlots : Nat)
  | removeDisplay (client : ClientId) (display : DisplayId)
  | addLayer (client : ClientId) (display : DisplayId) (layer : LayerId) (slots : Nat)
  | removeLayer (client : ClientId) (display : DisplayId) (layer : LayerId)
  | resizeClientTargets (client : ClientId) (display : DisplayId) (count : Nat)
  | resizeLayerBuffers (client : ClientId) (display : DisplayId) (layer : LayerId) (count : Nat)
  | lookup (client : ClientId) (display : DisplayId) (kind : BufferKind) (slot : Nat)
      (reuse : Bool) (handle : Option NativeHandle)
  | update (client : ClientId) (display : DisplayId) (kind : BufferKind) (slot : Nat)
      (reuse : Bool) (buffer : ResolvedBuffer)
  /-- Lets go of a buffer that was looked up. -/
  | forgo (buffer : ResolvedBuffer)
  | execute (client : ClientId) (engine : Engine) (commands : List DisplayCommand)
  | executeExtended (client : ClientId) (engine : Engine) (commands : List ExtendedDisplayCommand)
  | createClient
  | dropClient (client : ClientId)
  | registerListener (client : ClientId) (listener : EventListener)
  | receive (client : ClientId) (event : DisplayEvent)
  | createLayer (client : ClientId) (display : DisplayId) (slots : Nat)
  | destroyLayer (client : ClientId) (display : DisplayId) (layer : LayerId)
  | createVirtualDisplay (client : ClientId) (width height : Nat) (format : PixelFormat)
      (outputSlots : Nat)
  | destroyVirtualDisplay (client : ClientId) (display : DisplayId)
  | postCapture (client : ClientId) (display : DisplayId) (config : CaptureConfig)
      (buffer : NativeHandle) (listener : CaptureListener)
  /-- Posts a capture whether or not a client has the display. -/
  | post (display : DisplayId) (config : CaptureConfig) (buffer : NativeHandle)
      (listener : CaptureListener)
  | completeCapture (display : DisplayId) (code : Int) (buffer : BufferId)
  | dropCaptures (display : DisplayId)
  /-- One step of a worker of a capture session. -/
  | work (session : SessionId) (worker : Nat)

namespace Operation

/-- Does something that leaves its caller with no buffer. -/
def quietly {α : Type} (action : Action Service α) : Action Service (Option ResolvedBuffer) := do
  let _ ← action
  return none

open Service in
/-- What an operation does. A lookup that succeeds leaves its caller with a buffer. -/
def action : Operation → Action Service (Option ResolvedBuffer)
  | addDisplay id display isVirtual clientTargetSlots outputSlots =>
      quietly (onRegistry id
        (modifyGet (·.addDisplay display isVirtual clientTargetSlots outputSlots)))
  | removeDisplay id display => quietly (dropDisplay id display)
  | addLayer id display layer slots =>
      quietly (onRegistry id (Registry.change (·.addLayer display layer slots)))
  | removeLayer id display layer =>
      quietly (onRegistry id (Registry.change (·.removeLayer display layer)))
  | resizeClientTargets id display count => quietly (Service.resizeClientTargets id display count)
  | resizeLayerBuffers id display layer count =>
      quietly (Service.resizeLayerBuffers id display layer count)
  | lookup id display kind slot reuse handle => do
      match ← onRegistry id (Registry.lookup display kind slot reuse handle) with
      | .ok buffer => return some buffer
      | .error _ => return none
  | update id display kind slot reuse buffer =>
      quietly (onRegistry id (Registry.update display kind slot reuse buffer))
  | forgo buffer => quietly (Action.release buffer.handle?.toList)
  | execute id engine commands =>
      quietly (onRegistry id ((EngineAction.execute commands).run' engine))
  | executeExtended id engine commands =>
      quietly (onRegistry id ((EngineAction.executeExtended commands).run' engine))
  | createClient => quietly Service.createClient
  | dropClient id => quietly (Service.dropClient id)
  | registerListener id listener => quietly (Service.registerListener id listener)
  | receive id event => quietly (Service.receive id event)
  | createLayer id display slots => quietly (Service.createLayer id display slots)
  | destroyLayer id display layer => quietly (Service.destroyLayer id display layer)
  | createVirtualDisplay id width height format outputSlots =>
      quietly (Service.createVirtualDisplay id width height format outputSlots)
  | destroyVirtualDisplay id display => quietly (Service.destroyVirtualDisplay id display)
  | postCapture id display config buffer listener =>
      quietly (Service.postCapture id display config buffer listener)
  | post display config buffer listener =>
      quietly (onCaptures (Pipeline.post display config buffer listener))
  | completeCapture display code buffer => quietly (Service.completeCapture display code buffer)
  | dropCaptures display => quietly (Service.dropCaptures display)
  | work session worker => quietly (onCaptures (Pipeline.work session worker))

/-- The client that carries out the operation. -/
def client? : Operation → Option ClientId
  | addDisplay id .. | removeDisplay id _ | addLayer id .. | removeLayer id ..
  | resizeClientTargets id .. | resizeLayerBuffers id .. | lookup id .. | update id ..
  | execute id .. | executeExtended id .. | dropClient id | registerListener id _ | receive id _
  | createLayer id .. | destroyLayer id .. | createVirtualDisplay id ..
  | destroyVirtualDisplay id _ | postCapture id .. => some id
  | forgo _ | createClient | post .. | completeCapture .. | dropCaptures _ | work .. => none

/-- The worker that carries out the operation. -/
def worker? : Operation → Option (SessionId × Nat)
  | work session worker => some (session, worker)
  | _ => none

/-- The looked up buffer that the operation takes over from its caller. -/
def buffer? : Operation → Option ResolvedBuffer
  | update _ _ _ _ _ buffer | forgo buffer => some buffer
  | _ => none

/-- The operation gives a stream no imported handle. -/
def CopiesStreams : Operation → Prop
  | update _ _ kind _ false buffer => Display.Suits kind buffer.handle?
  | _ => True

end Operation

/-- The references of a buffer that may be there. -/
def referencesOf? (buffer : Option ResolvedBuffer) : Multiset NativeHandle :=
  (buffer.map ResolvedBuffer.references).getD 0

/-- What is left of a service when nothing holds a buffer. -/
def Service.emptied (service : Service) : Service := { nextClient := service.nextClient }

/-- The references that an execution would give back, store or leave to its caller if nothing came
in any more and it found `empty` whenever it goes on. -/
def Run.remains (empty : Service) : Run Service (Option ResolvedBuffer) → Multiset NativeHandle
  | .done buffer service => service.owned + referencesOf? buffer
  | .ask request service resume =>
      service.owned + (request.returned + (resume request.refusal empty).remains empty)

/-- An operation that waits for an answer. -/
structure Suspended where
  worker? : Option (SessionId × Nat)
  request : Request
  resume : request.Reply → Service → Run Service (Option ResolvedBuffer)

/-- The references that a suspended operation has in hand. A worker leaves its request with the
session until it has given the buffer back. -/
def Suspended.inHand (service : Service) (waiting : Suspended) : Multiset NativeHandle :=
  match waiting.worker? with
  | some _ => 0
  | none =>
      waiting.request.returned +
        (waiting.resume waiting.request.refusal service.emptied).remains service.emptied

structure System (κ : Type) where
  service : Service
  importer : κ
  /-- The buffers that were looked up and not stored or let go yet. -/
  kept : Multiset ResolvedBuffer := 0
  suspended : Multiset Suspended := 0
  /-- The references that the importer has granted. -/
  imported : Multiset NativeHandle := 0
  /-- The references that were given back to it. -/
  freed : Multiset NativeHandle := 0

namespace System

variable {κ : Type}

/-- A system at its beginning. -/
def fresh (service : Service) (importer : κ) : System κ := { service, importer }

/-- The references that something in the system owns: the slots of the clients' displays, the
captures that are queued or being told of, the buffers that were looked up, and the operations under
way. -/
def owned (system : System κ) : Multiset NativeHandle :=
  system.service.owned + (system.kept.map ResolvedBuffer.references).sum +
    (system.suspended.map (Suspended.inHand system.service)).sum

/-- An operation goes as far as it gets by itself. -/
def advance (system : System κ) (worker? : Option (SessionId × Nat)) :
    Run Service (Option ResolvedBuffer) → System κ
  | .done buffer service => { system with service, kept := buffer.toList + system.kept }
  | .ask request service resume =>
      { system with service, suspended := ⟨worker?, request, resume⟩ ::ₘ system.suspended }

/-- An operation begins, by a client that exists or a worker that does nothing else, or one that
waits is answered. -/
inductive Step (importer : Importer κ) (allowed : Operation → Prop) : System κ → System κ → Prop
  | start {system : System κ} {operation : Operation} {others : Multiset ResolvedBuffer}
      (permitted : allowed operation)
      (created : ∀ id, operation.client? = some id → id.raw < system.service.nextClient)
      (idle : ∀ waiting ∈ system.suspended, ∀ worker, operation.worker? = some worker →
        waiting.worker? ≠ some worker)
      (taken : system.kept = operation.buffer?.toList + others) :
      Step importer allowed system
        (advance { system with kept := others } operation.worker?
          (operation.action.start system.service))
  | answer {system : System κ} {waiting : Suspended} {others : Multiset Suspended}
      {reply : waiting.request.Reply} {after : κ}
      (present : system.suspended = waiting ::ₘ others)
      (answered : importer.Answers system.importer waiting.request reply after) :
      Step importer allowed system
        (advance
          { system with
            importer := after
            suspended := others
            imported := waiting.request.granted reply + system.imported
            freed := waiting.request.returned + system.freed }
          waiting.worker? (waiting.resume reply system.service))

/-- What the system can come to. -/
inductive Reaches (importer : Importer κ) (allowed : Operation → Prop) (first : System κ) :
    System κ → Prop
  | here : Reaches importer allowed first first
  | step {system after : System κ} (reached : Reaches importer allowed first system)
      (next : Step importer allowed system after) : Reaches importer allowed first after

end System
end Scanout

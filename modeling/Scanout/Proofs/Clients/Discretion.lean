import Scanout.Proofs.Batches.Local
import Scanout.Proofs.Clients.Tidy
import Scanout.Proofs.References.System
import Scanout.Proofs.Threads

/-!
Discretion. Creating a client, dropping one and registering a listener are all that decides who is
served and who is told of events. All else leaves the client slot as it is, switches nobody's events
on or off, and does not tell the device who its receiver is.
-/

namespace Scanout

variable {σ τ α β : Type}

/-- Any request but one that changes who receives the device's events. -/
def Request.Discreet : Request → Prop
  | .device (.setEventReceiver _) => False
  | _ => True

theorem Request.Concerns.discreet {display : DisplayId} {request : Request}
    (concerns : request.Concerns display) : request.Discreet := by
  cases request with
  | device call =>
      cases call with
      | setEventReceiver client => simp [Concerns, isReference, display?, DeviceCall.display?] at concerns
      | _ => trivial
  | _ => trivial

section Asks

variable {permits : Request → Prop}

theorem Action.Local.discreet {display : DisplayId} {action : Action Registry α}
    (isLocal : action.Local display) : action.Asks Request.Discreet := by
  obtain ⟨own, asks, rfl⟩ := isLocal
  intro registry
  exact ((asks _).imp fun _ => Request.Concerns.discreet).within registry

theorem Registry.asks_change (operation : Registry → Except Status (Registry × List Handle)) :
    (Registry.change operation).Asks Request.Discreet := by
  intro registry
  unfold change
  rw [Action.start_bind, Action.start_get, Run.done_andThen]
  cases operation registry with
  | error status => trivial
  | ok result =>
      have released : Action.Asks Request.Discreet (do
          Action.release result.2
          return Except.ok () : Action Registry (Except Status Unit)) :=
        (Action.asks_release result.2 fun _ => trivial).bind fun _ _ => trivial
      exact released result.1

/-- Whatever the engine has written, the action makes only such requests. -/
def EngineAction.Asks (permits : Request → Prop) (action : EngineAction α) : Prop :=
  ∀ engine, (action.run engine).Asks permits

theorem EngineAction.Asks.bind {first : EngineAction α} {next : α → EngineAction β}
    (asks : first.Asks permits) (further : ∀ value, (next value).Asks permits) :
    (first >>= next).Asks permits := fun engine =>
  (asks engine).bind fun reached => further reached.1 reached.2

theorem EngineAction.Asks.forM {each : β → EngineAction Unit} (list : List β)
    (asks : ∀ entry, (each entry).Asks permits) : (list.forM each).Asks permits := by
  induction list with
  | nil => exact fun _ _ => trivial
  | cons entry rest ih => exact (asks entry).bind fun _ => ih

theorem EngineAction.Local.discreet {display : DisplayId} {action : EngineAction α}
    (isLocal : action.Local display) : action.Asks Request.Discreet := by
  obtain ⟨own, isLocal, runs⟩ := isLocal
  intro engine
  rw [runs]
  exact isLocal.discreet.bind fun _ _ => trivial

theorem EngineAction.asks_batch {run : α → EngineAction Unit} (entries : List α)
    (asks : ∀ entry, (run entry).Asks Request.Discreet) :
    (EngineAction.batch run entries).Asks Request.Discreet := by
  unfold batch
  split
  · exact fun _ _ => trivial
  · apply EngineAction.Asks.bind
    · apply EngineAction.Asks.forM
      intro entry
      exact .bind (fun _ _ => trivial) fun _ => asks entry.1
    · exact fun _ _ _ => trivial

theorem EngineAction.asks_run' {action : EngineAction α} (asks : action.Asks permits)
    (engine : Engine) : Action.Asks permits (action.run' engine) :=
  (asks engine).bind fun _ _ => trivial

end Asks

namespace Service

/-- The client slot is as it was, and so is for every client whether it is told of events. -/
structure Undisturbed (before after : Service) : Prop where
  occupied : after.occupied = before.occupied
  nextClient : after.nextClient = before.nextClient
  events : ∀ id, (after.client id).eventsEnabled = (before.client id).eventsEnabled

theorem Undisturbed.refl (service : Service) : Undisturbed service service := ⟨rfl, rfl, fun _ => rfl⟩

theorem Undisturbed.trans {first second third : Service} (begins : Undisturbed first second)
    (goesOn : Undisturbed second third) : Undisturbed first third where
  occupied := goesOn.occupied.trans begins.occupied
  nextClient := goesOn.nextClient.trans begins.nextClient
  events id := (goesOn.events id).trans (begins.events id)

theorem undisturbed_modifyClient {change : Client → Client}
    (same : ∀ client, (change client).eventsEnabled = client.eventsEnabled) (service : Service)
    (id : ClientId) : Undisturbed service (service.modifyClient id change) where
  occupied := rfl
  nextClient := rfl
  events other := by
    rw [client_modifyClient]
    split
    · next named => rw [same, named]
    · rfl

end Service

open Service

/-- The action leaves the client slot and everybody's events alone, and the device's receiver. -/
structure Action.Discreet (action : Action Service α) : Prop where
  abides : ∀ service, (action.start service).Abides Undisturbed service
  asks : action.Asks Request.Discreet

/-- So does every turn of the thread. -/
abbrev Thread.Discreet (thread : Thread Service α) : Prop := thread.Keeps Undisturbed Request.Discreet

namespace Action.Discreet

theorem thread {action : Action Service α} (discreet : action.Discreet) : action.thread.Discreet :=
  .of_action discreet.abides discreet.asks

theorem pure (value : α) : (pure value : Action Service α).Discreet where
  abides := .refl
  asks _ := trivial

theorem get : (get : Action Service Service).Discreet where
  abides := .refl
  asks _ := trivial

theorem modify {change : Service → Service} (undisturbed : ∀ service, Undisturbed service (change service)) :
    (modify change : Action Service PUnit).Discreet where
  abides := undisturbed
  asks _ := trivial

theorem ask {request : Request} (discreet : request.Discreet) :
    (Action.ask request : Action Service _).Discreet where
  abides service := ⟨.refl service, fun _ after => .refl after⟩
  asks := .ask discreet

theorem bind {first : Action Service α} {next : α → Action Service β} (begins : first.Discreet)
    (goesOn : ∀ value, (next value).Discreet) : (first >>= next).Discreet where
  abides service := (begins.abides service).andThen .trans fun value => (goesOn value).abides
  asks := begins.asks.bind fun value => (goesOn value).asks

theorem forM {each : β → Action Service Unit} (list : List β)
    (discreet : ∀ entry, (each entry).Discreet) : (list.forM each).Discreet := by
  induction list with
  | nil => exact .pure ()
  | cons entry rest ih => exact (discreet entry).bind fun _ => ih

theorem release (handles : List Handle) : (Action.release handles : Action Service Unit).Discreet :=
  .forM _ fun _ => .ask trivial

theorem within {part : Service → τ} {replace : τ → Service → Service}
    (undisturbed : ∀ state service, Undisturbed service (replace state service))
    {action : Action τ α} (asks : action.Asks Request.Discreet) :
    (action.within part replace).Discreet where
  abides service := by
    unfold Action.start Action.within
    induction action.start (part service) generalizing service with
    | done value state => exact undisturbed state service
    | ask request state resume ih =>
        exact ⟨undisturbed state service, fun reply after => ih reply (part after) after⟩
  asks service := (asks (part service)).within service

theorem onRegistry (id : ClientId) {action : Action Registry α} (asks : action.Asks Request.Discreet) :
    (Service.onRegistry id action).Discreet := by
  unfold Service.onRegistry
  apply Action.Discreet.within _ asks
  intro registry service
  exact undisturbed_modifyClient (fun _ => by rfl) service id

theorem onCaptures {action : Action Pipeline α} (asks : action.Asks Request.Discreet) :
    (Service.onCaptures action).Discreet := by
  unfold Service.onCaptures
  apply Action.Discreet.within _ asks
  intro captures service
  exact ⟨rfl, rfl, fun _ => rfl⟩

theorem quietly {action : Action Service α} (discreet : action.Discreet) :
    (Operation.quietly action).Discreet := discreet.bind fun _ => .pure none

end Action.Discreet

namespace Pipeline

theorem asks_post (display : DisplayId) (config : CaptureConfig) (buffer : NativeHandle)
    (listener : CaptureListener) :
    (post display config buffer listener).Asks Request.Discreet := by
  unfold post
  split
  · exact fun _ => trivial
  · refine .bind (.ask (by trivial)) fun imported => ?_
    cases imported with
    | error reason => exact fun _ => trivial
    | ok _ =>
        refine .bind (fun _ => by trivial) fun ticket => ?_
        cases ticket with
        | none => exact (Action.asks_release _ fun _ => trivial).bind fun _ _ => by trivial
        | some ticket =>
            refine .bind (.ask (by trivial)) fun submitted => ?_
            cases submitted with
            | ok _ => exact fun _ => trivial
            | error status =>
                refine .bind (fun _ => by trivial) fun request => ?_
                exact (Action.asks_release _ fun _ => trivial).bind fun _ _ => by trivial

theorem asks_work (session : SessionId) (worker : Nat) :
    (work session worker).Asks Request.Discreet := by
  unfold work
  refine .bind (fun _ => by trivial) fun pipeline => ?_
  split
  · exact fun _ => trivial
  · split
    · exact fun _ => trivial
    · exact fun _ => trivial
    · exact fun _ => trivial
    · refine .bind (.ask (by trivial)) fun _ => ?_
      exact (Action.asks_release _ fun _ => trivial).bind fun _ _ => by trivial

end Pipeline

namespace Service

theorem discreet_change (id : ClientId)
    (operation : Registry → Except Status (Registry × List Handle)) :
    (onRegistry id (Registry.change operation)).Discreet :=
  .onRegistry id (Registry.asks_change operation)

theorem discreet_dropCaptures (display : DisplayId) : (dropCaptures display).Discreet :=
  .modify fun _ => ⟨rfl, rfl, fun _ => rfl⟩

theorem discreet_createLayer (id : ClientId) (display : DisplayId) (slots : Nat) :
    (createLayer id display slots).Discreet := by
  refine .bind (.ask (by trivial)) fun reply => ?_
  cases reply with
  | error status => exact .pure _
  | ok layer => exact (discreet_change id _).bind fun _ => .pure _

theorem discreet_destroyLayer (id : ClientId) (display : DisplayId) (layer : LayerId) :
    (destroyLayer id display layer).Discreet := by
  refine .bind (.ask (by trivial)) fun reply => ?_
  cases reply with
  | error status => exact .pure _
  | ok _ => exact discreet_change id _

theorem discreet_createVirtualDisplay (id : ClientId) (width height : Nat) (format : PixelFormat)
    (outputSlots : Nat) : (createVirtualDisplay id width height format outputSlots).Discreet := by
  refine .bind (.ask (by trivial)) fun reply => ?_
  cases reply with
  | error status => exact .pure _
  | ok created =>
      refine .bind (.modify fun service => ?_) fun _ => .pure _
      exact undisturbed_modifyClient (fun _ => by rfl) service id

theorem discreet_destroyVirtualDisplay (id : ClientId) (display : DisplayId) :
    (destroyVirtualDisplay id display).Discreet := by
  refine .bind (.ask (by trivial)) fun reply => ?_
  cases reply with
  | error status => exact .pure _
  | ok _ =>
      apply Action.Discreet.bind (discreet_change id _)
      intro dropped
      cases dropped with
      | error status => exact .pure _
      | ok _ => exact (discreet_dropCaptures display).bind fun _ => .pure _

theorem discreet_postCapture (id : ClientId) (display : DisplayId) (config : CaptureConfig)
    (buffer : NativeHandle) (listener : CaptureListener) :
    (postCapture id display config buffer listener).Discreet := by
  apply Action.Discreet.get.bind
  intro service
  split
  · exact .onCaptures (Pipeline.asks_post display config buffer listener)
  · exact .pure _

theorem discreet_completeCapture (display : DisplayId) (code : Int) (buffer : BufferId) :
    (completeCapture display code buffer).Discreet := by
  apply Action.Discreet.get.bind
  intro service
  cases service.captures.complete display code buffer with
  | error status => exact .pure _
  | ok captures =>
      refine .bind (.modify fun service => ?_) fun _ => .pure _
      exact ⟨rfl, rfl, fun _ => rfl⟩

theorem discreet_presentFinally (display : DisplayId) : (presentFinally display).Discreet := by
  refine .bind (.ask (by trivial)) fun reply => ?_
  cases reply with
  | error status => exact .pure _
  | ok _ => exact .bind (.ask (by trivial)) fun _ => .bind (.ask (by trivial)) fun _ => .pure _

theorem discreet_receive (id : ClientId) (event : DisplayEvent) : (receive id event).Discreet := by
  unfold receive
  apply Action.Discreet.get.bind
  intro service
  split
  · exact .pure _
  · split
    · refine .bind (.modify fun service => ?_) fun _ => .ask trivial
      exact undisturbed_modifyClient (fun _ => by rfl) service id
    · refine .bind (.ask (by trivial)) fun _ => .bind (.ask (by trivial)) fun _ => ?_
      exact (discreet_change id _).bind fun _ => discreet_dropCaptures event.display
    · exact .ask trivial

end Service

/-- Whether the operation may change who is served or who is told of events. -/
def Operation.isMembership : Operation → Bool
  | createClient | dropClient _ | registerListener .. => true
  | _ => false

theorem Operation.discreet {operation : Operation} (other : operation.isMembership = false) :
    operation.action.Discreet := by
  cases operation with
  | createClient | dropClient | registerListener => cases other
  | addDisplay id => exact .quietly (.onRegistry id fun _ => trivial)
  | removeDisplay id | addLayer id | removeLayer id | resizeClientTargets id
  | resizeLayerBuffers id => exact .quietly (Service.discreet_change id _)
  | lookup id display kind slot reuse handle =>
      apply Action.Discreet.bind (.onRegistry id (Registry.local_lookup kind slot reuse handle).discreet)
      intro found
      cases found <;> exact .pure _
  | update id display kind slot reuse buffer =>
      exact .quietly (.onRegistry id (Registry.local_update kind slot reuse buffer).discreet)
  | forgo buffer => exact .quietly (.release _)
  | execute id engine commands =>
      apply Action.Discreet.quietly (.onRegistry id (EngineAction.asks_run' _ engine))
      exact EngineAction.asks_batch commands fun command =>
        (EngineAction.local_displayCommand command).discreet
  | executeExtended id engine commands =>
      apply Action.Discreet.quietly (.onRegistry id (EngineAction.asks_run' _ engine))
      exact EngineAction.asks_batch commands fun command =>
        (EngineAction.local_extendedDisplayCommand command).discreet
  | receive id event => exact .quietly (Service.discreet_receive id event)
  | createLayer id display slots => exact .quietly (Service.discreet_createLayer id display slots)
  | destroyLayer id display layer => exact .quietly (Service.discreet_destroyLayer id display layer)
  | createVirtualDisplay id width height format outputSlots =>
      exact .quietly (Service.discreet_createVirtualDisplay id width height format outputSlots)
  | destroyVirtualDisplay id display =>
      exact .quietly (Service.discreet_destroyVirtualDisplay id display)
  | postCapture id display config buffer listener =>
      exact .quietly (Service.discreet_postCapture id display config buffer listener)
  | post display config buffer listener =>
      exact .quietly (.onCaptures (Pipeline.asks_post display config buffer listener))
  | completeCapture display code buffer =>
      exact .quietly (Service.discreet_completeCapture display code buffer)
  | dropCaptures display => exact .quietly (Service.discreet_dropCaptures display)
  | work session worker => exact .quietly (.onCaptures (Pipeline.asks_work session worker))

end Scanout

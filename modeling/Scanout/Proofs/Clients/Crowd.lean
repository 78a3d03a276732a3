import Mathlib.Data.Multiset.Filter
import Mathlib.Logic.Relation
import Scanout.Proofs.References.System
import Scanout.Proofs.Threads

/-!
The service in a crowd. Any number of threads use it at once: some create a client or drop one, others
make the calls of a client or bring it events. Whose turn it is next is open after every change that a
thread makes under a lock and at every request, and so is what the device replies and how long anybody
waits. The device passes events to the receiver that it was last told of.
-/

namespace Scanout

namespace Service

variable {α : Type}

/-- The service with a new client in its slot. -/
def welcome (service : Service) : Service :=
  { service with
    occupied := true
    clients := service.clients.insert ⟨service.nextClient⟩ {}
    nextClient := service.nextClient + 1 }

/-- Looks whether the client slot is free, and takes it if so. Otherwise the result is how long to
wait for it. -/
def look : Thread Service (Except Nat ClientId) :=
  .atomically fun service =>
    if service.occupied then (.error service.handoverTimeout, service)
    else (.ok ⟨service.nextClient⟩, service.welcome)

def install (id : ClientId) : Thread Service (Except Status ClientId) := do
  Thread.request (.device (.setEventReceiver (some id)))
  return .ok id

/-- The second look of a client that has waited. -/
def lookAgain : Thread Service (Except Status ClientId) := do
  match ← look with
  | .ok id => install id
  | .error _ => return .error .noResources

/-- Creates a client, in the company of others. -/
def arrive : Thread Service (Except Status ClientId) := do
  match ← look with
  | .ok id => install id
  | .error timeout =>
      Thread.request (.awaitDeparture timeout)
      lookAgain

def mute (id : ClientId) (service : Service) : Service :=
  service.modifyClient id fun client => { client with eventsEnabled := false }

def release (service : Service) : Service := { service with occupied := false }

/-- Lets go of one display of a departing client, in the company of others. -/
def retire (id : ClientId) (display : DisplayId) (isVirtual : Bool) (layers : List LayerId) :
    Thread Service Unit := do
  layers.forM fun layer => do
    let _ ← Thread.request (.device (.destroyLayer display layer))
  if isVirtual then
    let _ ← Thread.request (.device (.destroyVirtualDisplay display))
    (dropCaptures display).thread
  else (presentFinally display).thread
  let _ ← (dropDisplay id display).thread

def retireEach (id : ClientId) (displays : List (DisplayId × Bool × List LayerId)) :
    Thread Service Unit :=
  displays.forM fun (display, isVirtual, layers) => retire id display isVirtual layers

def retireAll (id : ClientId) : Thread Service Unit := do
  retireEach id (← Thread.atomically fun service => ((service.registry id).snapshot, service))

/-- Drops a client, in the company of others. -/
def depart (id : ClientId) : Thread Service Unit := do
  Thread.atomically fun service => ((), service.mute id)
  Thread.request (.device (.setEventReceiver none))
  retireAll id
  Thread.atomically fun service => ((), service.release)

theorem start_look_bind (service : Service) (next : Except Nat ClientId → Action Service α) :
    (look.action >>= next).start service =
      if service.occupied then (next (.error service.handoverTimeout)).start service
      else (next (.ok ⟨service.nextClient⟩)).start service.welcome := by
  let found : Except Nat ClientId × Service :=
    if service.occupied then (.error service.handoverTimeout, service)
    else (.ok ⟨service.nextClient⟩, service.welcome)
  change (next found.1).start found.2 = _
  cases occupied : service.occupied <;> simp [found, occupied]

theorem action_arrive : arrive.action = createClient := by
  apply Action.ext
  intro service
  unfold arrive createClient
  rw [Thread.action_bind, start_look_bind, Action.start_bind, Action.start_get, Run.done_andThen]
  cases occupied : service.occupied with
  | false => rfl
  | true =>
      simp only [if_true, Thread.action_bind]
      refine congrArg (Run.ask _ service) (funext₂ fun reply after => ?_)
      change lookAgain.action.start after = _
      unfold lookAgain
      rw [Thread.action_bind, start_look_bind]
      rw [Run.done_andThen, Action.start_bind, Action.start_get, Run.done_andThen]
      cases after.occupied <;> rfl

theorem action_retire (id : ClientId) (display : DisplayId) (isVirtual : Bool)
    (layers : List LayerId) :
    (retire id display isVirtual layers).action = retireDisplay id display isVirtual layers := by
  unfold retire retireDisplay
  cases isVirtual <;> simp <;> rfl

theorem action_depart (id : ClientId) : (depart id).action = dropClient id := by
  unfold depart dropClient
  simp [retireAll, retireEach, action_retire]
  rfl

end Service

/-- What a thread of the crowd comes to: the client that it has created, if it was to create one. -/
abbrev Answer : Type := Except Status (Option ClientId)

namespace Operation

/-- Who makes the operation as a call of a client. Events come by themselves. -/
def caller? : Operation → Option ClientId
  | receive .. => none
  | operation => operation.client?

def thread : Operation → Thread Service Answer
  | createClient => Except.map some <$> Service.arrive
  | dropClient id => (fun () => .ok none) <$> Service.depart id
  | operation => (fun _ => .ok none) <$> operation.action.thread

/-- Left to itself, a thread does what the operation does. -/
theorem action_thread (operation : Operation) :
    (fun _ => ()) <$> operation.thread.action = (fun _ => ()) <$> operation.action := by
  have quiet {α : Type} (action : Action Service α) : quietly action = (fun _ => none) <$> action :=
    (map_eq_pure_bind ..).symm
  cases operation with
  | createClient =>
      rw [thread, Thread.action_map, Service.action_arrive, action, quiet]
      simp only [Functor.map_map]
  | dropClient id =>
      rw [thread, Thread.action_map, Service.action_depart, action, quiet]
      simp only [Functor.map_map]
  | _ =>
      rw [thread, Thread.action_map, Thread.action_thread, Functor.map_map]
      all_goals nofun

end Operation

/-- What a thread has noticed. -/
inductive Moment where
  /-- It has held the lock, and the client slot was free or was not when it got it. -/
  | locked (free : Bool)
  | exchanged (exchange : Exchange)

namespace Moment

/-- Whom the device tells of events from then on. -/
def receiver (before : Option ClientId) : Moment → Option ClientId
  | exchanged ⟨.device (.setEventReceiver client), _⟩ => client
  | locked _ | exchanged _ => before

def removesReceiver : Moment → Bool
  | exchanged ⟨.device (.setEventReceiver none), _⟩ => true
  | locked _ | exchanged _ => false

end Moment

/-- One turn of a thread: a change under a lock, or a request and the reply to it. -/
inductive Turn {α : Type} (service : Service) : Thread Service α → Moment → Service →
    Thread Service α → Prop where
  | locked (change : Service → Service) (next : Service → Thread Service α) :
      Turn service (.locked change next) (.locked !service.occupied) (change service) (next service)
  | asked (request : Request) (resume : request.Reply → Thread Service α) (reply : request.Reply) :
      Turn service (.ask request resume) (.exchanged ⟨request, reply⟩) service (resume reply)

/-- One of the crowd: what it is there for, what it has been through and what is left to do. -/
structure Party where
  operation : Operation
  past : List Moment
  rest : Thread Service Answer

namespace Party

def begin (operation : Operation) : Party := ⟨operation, [], operation.thread⟩

/-- The party after a turn. -/
def next (party : Party) (moment : Moment) (rest : Thread Service Answer) : Party :=
  ⟨party.operation, party.past ++ [moment], rest⟩

def Finished (party : Party) : Prop := ∃ answer, party.rest = .done answer

/-- The party has told the device that there is no receiver. -/
def unregistered (party : Party) : Bool := party.past.any Moment.removesReceiver

end Party

structure Crowd where
  service : Service
  /-- Whom the device tells of events. -/
  receiver : Option ClientId := none
  parties : Multiset Party := 0

namespace Crowd

/-- Somebody has created the client. -/
def Created (crowd : Crowd) (id : ClientId) : Prop :=
  ∃ party ∈ crowd.parties, party.operation = .createClient ∧ party.rest = .done (.ok (some id))

/-- The client is there for calls: it was created, and nobody has begun to drop it. -/
def Serves (crowd : Crowd) (id : ClientId) : Prop :=
  crowd.Created id ∧ ∀ party ∈ crowd.parties, party.operation ≠ .dropClient id

/-- The drop of the client is finished. -/
def Departed (crowd : Crowd) (id : ClientId) : Prop :=
  ∃ party ∈ crowd.parties, party.operation = .dropClient id ∧ party.Finished

/-- The client has got the slot, and its drop is not finished. -/
def Alive (crowd : Crowd) (id : ClientId) : Prop :=
  id.raw < crowd.service.nextClient ∧ ¬crowd.Departed id

/-- Calls are made by clients that are there, and a client is not dropped in the middle of one. -/
structure Permits (crowd : Crowd) (operation : Operation) : Prop where
  serves : ∀ id, operation.caller? = some id → crowd.Serves id
  idle : ∀ id, operation = .dropClient id →
    ∀ party ∈ crowd.parties, party.operation.caller? = some id → party.Finished

inductive Step : Crowd → Crowd → Prop where
  | begins {crowd : Crowd} {operation : Operation} (permitted : crowd.Permits operation) :
      Step crowd { crowd with parties := .begin operation ::ₘ crowd.parties }
  | turns {crowd : Crowd} {party : Party} {others : Multiset Party} {moment : Moment}
      {after : Service} {rest : Thread Service Answer} (present : crowd.parties = party ::ₘ others)
      (turn : Turn crowd.service party.rest moment after rest) :
      Step crowd
        { service := after
          receiver := moment.receiver crowd.receiver
          parties := party.next moment rest ::ₘ others }

/-- What a crowd can come to that begins with nobody there. -/
def Reached (settings : Settings) : Crowd → Prop :=
  Relation.ReflTransGen Step { service := settings.service }

section

variable {settings : Settings} {service after : Service} {receiver : Option ClientId}
  {party : Party} {others : Multiset Party}

theorem Reached.begins (reached : Reached settings ⟨service, receiver, others⟩)
    (operation : Operation) (permitted : Permits ⟨service, receiver, others⟩ operation) :
    Reached settings ⟨service, receiver, .begin operation ::ₘ others⟩ :=
  reached.tail (.begins permitted)

theorem Reached.turns {moment : Moment} {rest : Thread Service Answer}
    (reached : Reached settings ⟨service, receiver, party ::ₘ others⟩)
    (turn : Turn service party.rest moment after rest) : Reached settings
      ⟨after, moment.receiver receiver, party.next moment rest ::ₘ others⟩ :=
  reached.tail (.turns rfl turn)

end

end Crowd
end Scanout

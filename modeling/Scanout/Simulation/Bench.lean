import Scanout.Buffer.Pool
import Scanout.Service.Client
import Scanout.Simulation.Device

/-!
A bench: surroundings for the service that do what a script says and write down everything that
happens. Buffers come from a pool that refuses some of them, the device is a simulated one, and
hooks run steps from inside its calls. Worker threads run whenever they have something to do, and
what happens on them is written down apart.

What a step is, and how it is performed, is up to whoever uses the bench.
-/

namespace Scanout

/-- What to post from inside the notification of a capture. -/
inductive Repost where
  | mk (display : Option DisplayId) (config : CaptureConfig) (buffer : NativeHandle)
      (next : Option Repost)

inductive ImportNote where
  | imported (id : BufferId)
  | refused (id : BufferId)
  | freed (id : BufferId)

structure EventNote where
  listener : EventListener
  event : DisplayEvent
  /-- The client had the display at that moment. A client that was let go is not asked any more. -/
  tracked : Option Bool

structure CaptureNote where
  display : DisplayId
  status : CaptureStatus
  buffer : NativeHandle
  /-- The captures that the display had queued at that moment. -/
  pending : Nat
  /-- What came of posting again. -/
  repost : Option (Except Status Unit)

/-- What happened at the device: a call, or a step of a hook in the middle of one. -/
inductive DeviceNote (τ ρ : Type) where
  | call (call : DeviceCall)
  | hook (step : τ) (result : ρ)

structure Transcript (τ ρ : Type) where
  device : List (DeviceNote τ ρ) := []
  imports : List ImportNote := []
  /-- The visits to the importer from other threads. -/
  importsAside : List ImportNote := []
  events : List EventNote := []
  captures : List CaptureNote := []

/-- The parts of a state that a bench looks at. -/
structure Subject (σ : Type) where
  captures : σ → Pipeline := fun _ => {}
  putCaptures : Pipeline → σ → σ := fun _ state => state
  registry : σ → ClientId → Registry := fun _ _ => ∅
  dropClient : ClientId → Action σ Unit := fun _ => pure ()

structure Bench (σ τ ρ : Type) where
  state : σ
  pool : Pool
  refused : List BufferId := []
  device : SimulatedDevice := {}
  hooks : List (CallRule (List τ)) := []
  /-- Something runs beside the steps, on a thread of its own. -/
  aside : Bool := false
  transcript : Transcript τ ρ := {}
  /-- What each capture listener posts when it is told. -/
  reposts : List (Option Repost) := []
  /-- The client that receives events, and all that ever did. -/
  receiver : Option ClientId := none
  receivers : List ClientId := []
  /-- The client that departs when another one has waited long enough. -/
  departing : Option ClientId := none
  /-- The clients that an operation has in hand, and those of them that were let go. -/
  held : List ClientId := []
  leaving : List ClientId := []

namespace Bench

variable {σ τ ρ : Type}

def noteImport (bench : Bench σ τ ρ) (note : ImportNote) : Bench σ τ ρ :=
  let transcript := bench.transcript
  { bench with
    transcript :=
      if bench.aside then { transcript with importsAside := transcript.importsAside ++ [note] }
      else { transcript with imports := transcript.imports ++ [note] } }

def noteDevice (bench : Bench σ τ ρ) (note : DeviceNote τ ρ) : Bench σ τ ρ :=
  { bench with
    transcript := { bench.transcript with device := bench.transcript.device ++ [note] } }

def importBuffer (bench : Bench σ τ ρ) (native : NativeHandle) :
    Except BufferError Unit × Bench σ τ ρ :=
  let attempt :=
    if bench.refused.contains native.id then .error (.importFailed native.id "refused")
    else bench.pool.importBuffer native
  match attempt with
  | .ok pool => (.ok (), { bench with pool }.noteImport (.imported native.id))
  | .error reason => (.error reason, bench.noteImport (.refused native.id))

def freeBuffer (bench : Bench σ τ ρ) (native : NativeHandle) : Bench σ τ ρ :=
  { bench with pool := bench.pool.freeBuffer native }.noteImport (.freed native.id)

/-- A listener for a capture, and what it posts when it is told. -/
def newListener (bench : Bench σ τ ρ) (repost : Option Repost) :
    CaptureListener × Bench σ τ ρ :=
  (⟨bench.reposts.length⟩, { bench with reposts := bench.reposts ++ [repost] })

/-- The waiting time in milliseconds after which a departing client is gone. -/
def departureTime : Nat := 10

end Bench

/-- What happens on a bench. Steps may fail to be understood, hence the monad below. -/
abbrev BenchAction (σ τ ρ : Type) (m : Type → Type) := StateT (Bench σ τ ρ) m

namespace BenchAction

variable {σ τ ρ α : Type} {m : Type → Type} [Monad m]

/-- Does something as a thread beside the steps. -/
def aside (action : BenchAction σ τ ρ m α) : BenchAction σ τ ρ m α := do
  let before := (← get).aside
  modify fun bench => { bench with aside := true }
  let value ← action
  modify fun bench => { bench with aside := before }
  return value

/-- Does something with a client in hand. If the client is let go meanwhile, it departs when nothing
has it in hand any more. -/
def holding (client : ClientId) (depart : BenchAction σ τ ρ m Unit)
    (action : BenchAction σ τ ρ m α) : BenchAction σ τ ρ m α := do
  modify fun bench => { bench with held := client :: bench.held }
  let value ← action
  let bench ← modifyGet fun bench =>
    let bench := { bench with held := bench.held.erase client }
    (bench, bench)
  if bench.leaving.contains client && !bench.held.contains client then
    set { bench with leaving := bench.leaving.erase client }
    depart
  return value

/-- Lets go of a client, which departs at once unless something has it in hand. -/
def letGo (client : ClientId) (depart : BenchAction σ τ ρ m Unit) :
    BenchAction σ τ ρ m Unit := do
  if (← get).held.contains client then
    modify fun bench => { bench with leaving := client :: bench.leaving }
  else depart

/-- Does something while a thread beside the steps lets go of a client. The client departs as soon as
it is awaited for long enough, or else afterwards. One that is in hand does not depart there. -/
def handingOver (client : ClientId) (depart : BenchAction σ τ ρ m Unit)
    (action : BenchAction σ τ ρ m α) : BenchAction σ τ ρ m α := do
  if (← get).held.contains client then
    letGo client depart
    action
  else
    modify fun bench => { bench with departing := some client }
    let value ← action
    if (← get).departing.isSome then
      modify fun bench => { bench with departing := none }
      aside depart
    return value

/-- Runs an action on the bench's state, with `answer` as the surroundings. -/
def perform (answer : (request : Request) → BenchAction σ τ ρ m request.Reply)
    (action : Action σ α) : BenchAction σ τ ρ m α := do
  let surroundings (request : Request) (state : σ) :
      BenchAction σ τ ρ m (request.Reply × σ) := do
    modify fun bench => { bench with state }
    let reply ← answer request
    return (reply, (← get).state)
  let (value, state) ← (action.start (← get).state).interpret surroundings
  modify fun bench => { bench with state }
  return value

/-- Calls the device: first the call is written down, then the hooks for it run, then it is
answered. Hooks leave the calls of other threads alone. -/
def call (hook : τ → BenchAction σ τ ρ m ρ) (call : DeviceCall) :
    BenchAction σ τ ρ m call.Reply := do
  modify (·.noteDevice (.call call))
  if let .setEventReceiver receiver := call then
    modify fun bench =>
      { bench with receiver, receivers := bench.receivers ++ receiver.toList }
  if !(← get).aside then
    let fired ← modifyGet fun bench =>
      let (fired, hooks) := CallRule.strikeAll bench.hooks call
      (fired.flatten, { bench with hooks })
    fired.forM fun step => do
      let result ← hook step
      modify (·.noteDevice (.hook step result))
  modifyGet fun bench =>
    let (reply, device) := bench.device.answer call
    (reply, { bench with device })

/-- Tells the listener of a capture, which may post another. -/
def tellCapture (subject : Subject σ)
    (run : Action σ (Except Status Unit) → BenchAction σ τ ρ m (Except Status Unit))
    (display : DisplayId) (listener : CaptureListener) (status : CaptureStatus)
    (buffer : NativeHandle) : BenchAction σ τ ρ m Unit := do
  let bench ← get
  let repost ← match bench.reposts[listener.number]? with
    | some (some (.mk target config again next)) => do
        let listener ← modifyGet (·.newListener next)
        let post := Pipeline.post (target.getD display) config again listener
        pure (some (← run (post.within subject.captures subject.putCaptures)))
    | _ => pure none
  modify fun after =>
    let note := {
      display, status, buffer, repost, pending := (subject.captures bench.state).pending display }
    { after with
      transcript := { after.transcript with captures := after.transcript.captures ++ [note] } }

/-- Answers a request. `hook` performs a step of a hook; `run` runs an action in the same
surroundings. -/
def answer (subject : Subject σ) (hook : τ → BenchAction σ τ ρ m ρ)
    (run : ∀ {β : Type}, Action σ β → BenchAction σ τ ρ m β) (request : Request) :
    BenchAction σ τ ρ m request.Reply :=
  match request with
  | .importBuffer native => modifyGet (·.importBuffer native)
  | .freeBuffer native => modify (·.freeBuffer native)
  | .device request => call hook request
  | .notify client listener event =>
      modify fun bench =>
        let tracked :=
          if bench.leaving.contains client then none
          else some ((subject.registry bench.state client).contains event.display)
        { bench with
          transcript := { bench.transcript with
            events := bench.transcript.events ++ [{ listener, event, tracked }] } }
  | .captured display listener status buffer =>
      tellCapture subject run display listener status buffer
  | .awaitDeparture milliseconds => do
      match (← get).departing with
      | some client =>
          if Bench.departureTime < milliseconds then
            modify fun bench => { bench with departing := none }
            aside (run (subject.dropClient client))
      | none => return ()

/-- One step of a worker thread, if one has something to do. -/
def work (subject : Subject σ) (run : Action σ Unit → BenchAction σ τ ρ m Unit) :
    BenchAction σ τ ρ m Bool := do
  match (subject.captures (← get).state).nextWorker? with
  | none => return false
  | some (session, worker) =>
      aside (run ((Pipeline.work session worker).within subject.captures subject.putCaptures))
      return true

end BenchAction
end Scanout

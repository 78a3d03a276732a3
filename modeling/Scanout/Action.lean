import Scanout.Device
import Scanout.Event

/-!
Actions: what the service does, cut at every point where it turns to its surroundings. Between two
requests an action only changes its own state, in one step. At a request it hands out that state
and waits, so the surroundings may run other actions on the state before they reply: a device may
report a display lost from inside a call, a listener may post a capture from inside a notification.

`Run` is one execution in progress and `Action` a state waiting to be given. Actions form a lawful
monad, so they are written as ordinary imperative code.
-/

namespace Scanout

/-- Whom a client tells about display events. -/
structure EventListener where
  number : Nat
  deriving DecidableEq, Repr, Inhabited

/-- What an action asks of its surroundings. -/
inductive Request where
  | importBuffer (handle : NativeHandle)
  | freeBuffer (handle : NativeHandle)
  | device (call : DeviceCall)
  /-- Tell a client's listener about a display. -/
  | notify (client : ClientId) (listener : EventListener) (event : DisplayEvent)
  /-- Tell the listener of a capture how it ended. -/
  | captured (display : DisplayId) (listener : CaptureListener) (status : CaptureStatus)
      (buffer : NativeHandle)
  /-- Wait until the client slot is free, but no longer than this. -/
  | awaitDeparture (milliseconds : Nat)
  deriving DecidableEq, Repr

abbrev Request.Reply : Request → Type
  | importBuffer _ => Except BufferError Unit
  | device call => call.Reply
  | freeBuffer _ | notify .. | captured .. | awaitDeparture _ => Unit

/-- An execution in progress: finished, or stopped at a request. The state at a request is the one
that the surroundings see; the reply comes with the state as they left it. -/
inductive Run (σ α : Type) where
  | done (value : α) (state : σ)
  | ask (request : Request) (state : σ) (resume : request.Reply → σ → Run σ α)

namespace Run

variable {σ τ α β γ : Type}

/-- Goes on with `next` once the execution has finished. -/
def andThen : Run σ α → (α → σ → Run σ β) → Run σ β
  | done value state, next => next value state
  | ask request state resume, next =>
      ask request state fun reply after => (resume reply after).andThen next

@[simp] theorem andThen_done (run : Run σ α) : run.andThen done = run := by
  induction run with
  | done value state => rfl
  | ask request state resume ih =>
      simp only [andThen]
      congr
      funext reply after
      exact ih reply after

@[simp] theorem done_andThen (value : α) (state : σ) (next : α → σ → Run σ β) :
    (done value state).andThen next = next value state := rfl

theorem andThen_assoc (run : Run σ α) (first : α → σ → Run σ β) (second : β → σ → Run σ γ) :
    (run.andThen first).andThen second =
      run.andThen fun value state => (first value state).andThen second := by
  induction run with
  | done value state => rfl
  | ask request state resume ih =>
      simp only [andThen]
      congr
      funext reply after
      exact ih reply after

/-- Runs on a part of a larger state. The rest of the larger state is as the surroundings leave
it. -/
def within (part : τ → σ) (replace : σ → τ → τ) (whole : τ) : Run σ α → Run τ α
  | done value state => done value (replace state whole)
  | ask request state resume =>
      ask request (replace state whole) fun reply after =>
        (resume reply (part after)).within part replace after

/-- Carries an execution through, with `answer` as the surroundings. -/
def interpret {m : Type → Type} [Monad m]
    (answer : (request : Request) → σ → m (request.Reply × σ)) : Run σ α → m (α × σ)
  | done value state => return (value, state)
  | ask request state resume => do
      let (reply, after) ← answer request state
      (resume reply after).interpret answer

end Run

/-- Something to do on a state of type `σ`, with a result of type `α`. -/
def Action (σ α : Type) : Type := σ → Run σ α

namespace Action

variable {σ τ α β : Type}

def start (action : Action σ α) (state : σ) : Run σ α := action state

theorem ext {first second : Action σ α} (same : ∀ state, first.start state = second.start state) :
    first = second := funext same

instance : Monad (Action σ) where
  pure value := fun state => .done value state
  bind action next := fun state => (action.start state).andThen fun value => (next value).start

instance : LawfulMonad (Action σ) :=
  LawfulMonad.mk' (Action σ) (fun _ => ext fun _ => Run.andThen_done _) (fun _ _ => rfl)
    (fun _ _ _ => ext fun _ => Run.andThen_assoc _ _ _)

instance : MonadStateOf σ (Action σ) where
  get := fun state => .done state state
  set state := fun _ => .done () state
  modifyGet change := fun state => let (value, after) := change state; .done value after

def ask (request : Request) : Action σ request.Reply := fun state => .ask request state .done

def call (call : DeviceCall) : Action σ call.Reply := ask (.device call)

/-- Gives back the references that handles own, in order. -/
def release (handles : List Handle) : Action σ Unit :=
  (referencesOf handles).forM fun native => ask (.freeBuffer native)

/-- Does something on a part of a larger state. -/
def within (part : τ → σ) (replace : σ → τ → τ) (action : Action σ α) : Action τ α :=
  fun whole => (action.start (part whole)).within part replace whole

@[simp] theorem start_pure (value : α) (state : σ) :
    (pure value : Action σ α).start state = .done value state := rfl

@[simp] theorem start_bind (action : Action σ α) (next : α → Action σ β) (state : σ) :
    (action >>= next).start state =
      (action.start state).andThen fun value => (next value).start := rfl

@[simp] theorem start_get (state : σ) : (get : Action σ σ).start state = .done state state := rfl

@[simp] theorem start_ask (request : Request) (state : σ) :
    (ask request : Action σ _).start state = .ask request state .done := rfl

@[simp] theorem release_nil : (release [] : Action σ Unit) = pure () := rfl

end Action
end Scanout

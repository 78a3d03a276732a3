import Scanout.Proofs.Play

/-!
Threads: what somebody does while others do theirs. A thread holds a lock for one change of the
state at a time and gives way to the others after it, as it does whenever it waits for an answer. An
action is what a thread comes to if nobody else comes in between, but for its requests.
-/

namespace Scanout

inductive Thread (σ α : Type) where
  | done (value : α)
  /-- Changes the state under a lock, and goes on by what it has found there. -/
  | locked (change : σ → σ) (next : σ → Thread σ α)
  | ask (request : Request) (resume : request.Reply → Thread σ α)

namespace Thread

variable {σ α β γ : Type}

/-- Goes on with `next` once the thread is done. -/
def andThen : Thread σ α → (α → Thread σ β) → Thread σ β
  | done value, next => next value
  | locked change further, next => locked change fun found => (further found).andThen next
  | ask request resume, next => ask request fun reply => (resume reply).andThen next

theorem andThen_done (thread : Thread σ α) : thread.andThen done = thread := by
  induction thread with
  | done value => rfl
  | locked change next ih => exact congrArg _ (funext ih)
  | ask request resume ih => exact congrArg _ (funext ih)

theorem andThen_assoc (thread : Thread σ α) (first : α → Thread σ β) (second : β → Thread σ γ) :
    (thread.andThen first).andThen second = thread.andThen fun value => (first value).andThen second := by
  induction thread with
  | done value => rfl
  | locked change next ih => exact congrArg _ (funext ih)
  | ask request resume ih => exact congrArg _ (funext ih)

instance : Monad (Thread σ) where
  pure := done
  bind := andThen

instance : LawfulMonad (Thread σ) :=
  LawfulMonad.mk' (Thread σ) andThen_done (fun _ _ => rfl) andThen_assoc

def atomically (change : σ → α × σ) : Thread σ α :=
  locked (fun found => (change found).2) fun found => done (change found).1

def request (request : Request) : Thread σ request.Reply := ask request done

/-- What the thread does if nobody comes in between, but for its requests. -/
def action : Thread σ α → Action σ α
  | done value => pure value
  | locked change next => fun state => (next state).action.start (change state)
  | ask request resume => fun state =>
      .ask request state fun reply after => (resume reply).action.start after

end Thread

/-- The state at the first request, or at the end. -/
def Run.reached {σ α : Type} : Run σ α → σ
  | .done _ state | .ask _ state _ => state

/-- What is left to do when the first state has been reached, one stretch at a time. -/
def Run.thread {σ α : Type} : Run σ α → Thread σ α
  | .done value _ => .done value
  | .ask request _ resume => .ask request fun reply =>
      .locked (fun state => (resume reply state).reached) fun state => (resume reply state).thread

/-- The action, whose stretches between requests are each under a lock. -/
def Action.thread {σ α : Type} (action : Action σ α) : Thread σ α :=
  .locked (fun state => (action.start state).reached) fun state => (action.start state).thread

namespace Thread

variable {σ α β : Type}

theorem start_action_thread (run : Run σ α) : run.thread.action.start run.reached = run := by
  induction run with
  | done value state => rfl
  | ask request state resume ih => exact congrArg _ (funext fun reply => funext fun after => ih reply after)

@[simp] theorem action_thread (action : Action σ α) : action.thread.action = action :=
  Action.ext fun state => start_action_thread (action.start state)

@[simp] theorem action_pure (value : α) : (pure value : Thread σ α).action = pure value := rfl

@[simp] theorem action_request (request : Request) :
    (Thread.request request : Thread σ _).action = Action.ask request := rfl

@[simp] theorem action_atomically (change : σ → α × σ) :
    (atomically change).action = modifyGet change := rfl

@[simp] theorem action_bind (first : Thread σ α) (next : α → Thread σ β) :
    (first >>= next).action = first.action >>= fun value => (next value).action := by
  apply Action.ext
  intro state
  change (first.andThen next).action.start state =
    (first.action.start state).andThen fun value => (next value).action.start
  induction first generalizing state with
  | done value => rfl
  | locked change further ih => exact ih state (change state)
  | ask request resume ih => exact congrArg _ (funext fun reply => funext fun after => ih reply after)

@[simp] theorem action_map (change : α → β) (thread : Thread σ α) :
    (change <$> thread).action = change <$> thread.action := by
  rw [map_eq_pure_bind, map_eq_pure_bind, action_bind]
  rfl

@[simp] theorem action_forM (list : List β) (each : β → Thread σ Unit) :
    (forM list each).action = forM list fun entry => (each entry).action := by
  induction list with
  | nil => rfl
  | cons entry rest ih => rw [List.forM_cons, List.forM_cons, action_bind, ih]

/-- Whatever it finds and whatever is replied, the thread changes the state at most as stated and
makes only such requests. -/
def Keeps (permits : σ → σ → Prop) (asks : Request → Prop) : Thread σ α → Prop
  | done _ => True
  | locked change next => ∀ found, permits found (change found) ∧ (next found).Keeps permits asks
  | ask request resume => asks request ∧ ∀ reply, (resume reply).Keeps permits asks

variable {permits : σ → σ → Prop} {asks : Request → Prop}

theorem Keeps.bind {first : Thread σ α} {next : α → Thread σ β} (keeps : first.Keeps permits asks)
    (further : ∀ value, (next value).Keeps permits asks) : (first >>= next).Keeps permits asks := by
  change (first.andThen next).Keeps permits asks
  induction first with
  | done value => exact further value
  | locked change goesOn ih => exact fun found => ⟨(keeps found).1, ih found (keeps found).2⟩
  | ask request resume ih => exact ⟨keeps.1, fun reply => ih reply (keeps.2 reply)⟩

theorem Keeps.forM {each : β → Thread σ Unit} (list : List β)
    (keeps : ∀ entry, (each entry).Keeps permits asks) : (list.forM each).Keeps permits asks := by
  induction list with
  | nil => trivial
  | cons entry rest ih => exact .bind (keeps entry) fun _ => ih

theorem Keeps.request {request : Request} (permitted : asks request) :
    (Thread.request request : Thread σ _).Keeps permits asks := ⟨permitted, fun _ => trivial⟩

theorem abides_reached {run : Run σ α} {start : σ} (abides : run.Abides permits start) :
    permits start run.reached := by
  cases run with
  | done value state => exact abides
  | ask request state resume => exact abides.1

theorem keeps_run {run : Run σ α} {start : σ} (abides : run.Abides permits start)
    (asked : run.Asks asks) : run.thread.Keeps permits asks := by
  induction run generalizing start with
  | done value state => trivial
  | ask request state resume ih =>
      refine ⟨asked.1, fun reply found => ?_⟩
      have stretch := abides.2 reply found
      exact ⟨abides_reached stretch, ih reply found stretch (asked.2 reply found)⟩

theorem Keeps.of_action {action : Action σ α}
    (abides : ∀ state, (action.start state).Abides permits state) (asked : action.Asks asks) :
    action.thread.Keeps permits asks := fun found =>
  ⟨abides_reached (abides found), keeps_run (abides found) (asked found)⟩

end Thread
end Scanout

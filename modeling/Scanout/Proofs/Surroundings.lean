import Scanout.Action
import Scanout.Simulation.Device

/-!
Executions among their surroundings. `Run.Ends` says how an execution can come to its end: what it
exchanges with the surroundings, what it results in and the state it leaves. `Run.Ensures` is a
statement about all its ends, whatever is replied, and `Action.perform` carries an action through
with one behaviour of the surroundings.
-/

namespace Scanout

/-- A request and the reply to it. -/
structure Exchange where
  request : Request
  reply : request.Reply

/-- How the surroundings reply to a request, given what they were asked before. -/
abbrev Replies : Type := List Request → (request : Request) → request.Reply

/-- What the surroundings do at a request, given all that was exchanged before: they may work on
the state, and they reply. -/
abbrev Surroundings (σ : Type) : Type :=
  List Exchange → (request : Request) → σ → request.Reply × σ

section

variable {σ α β : Type}

/-- Surroundings that reply and leave the state alone. -/
def Replies.quiet (replies : Replies) : Surroundings σ := fun past request state =>
  (replies (past.map Exchange.request) request, state)

/-- The replies of a simulated device that fails some calls. Every buffer is granted. -/
def SimulatedDevice.replies (device : SimulatedDevice) (fails : DeviceCall → Bool) : Replies :=
  fun _ request =>
    match request with
    | .importBuffer _ => .ok ()
    | .device call =>
        if fails call then (device.fail .unsupported call).1 else (device.succeed call).1
    | .freeBuffer _ | .notify .. | .captured .. | .awaitDeparture _ => ()

def Surroundings.answer (surroundings : Surroundings σ) (request : Request) (state : σ) :
    StateM (List Exchange) (request.Reply × σ) := fun past =>
  (surroundings past request state, past ++ [⟨request, (surroundings past request state).1⟩])

structure Performance (σ α : Type) where
  value : α
  state : σ
  exchanges : List Exchange

def Performance.requests (performance : Performance σ α) : List Request :=
  performance.exchanges.map Exchange.request

/-- Carries an action through among the given surroundings. -/
def Action.perform (action : Action σ α) (surroundings : Surroundings σ) (start : σ) :
    Performance σ α :=
  let ((value, state), exchanges) := (action.start start).interpret surroundings.answer []
  { value, state, exchanges }

namespace Run

/-- An execution can end so, if the surroundings reply as listed. At each request they may meddle
with the state as permitted. -/
inductive Ends (meddles : σ → σ → Prop) : Run σ α → List Exchange → α → σ → Prop where
  | done (value : α) (state : σ) : Ends meddles (.done value state) [] value state
  | ask {request : Request} {state after final : σ} {resume : request.Reply → σ → Run σ α}
      {exchanges : List Exchange} {value : α} (reply : request.Reply) (meddled : meddles state after)
      (further : Ends meddles (resume reply after) exchanges value final) :
      Ends meddles (.ask request state resume) (⟨request, reply⟩ :: exchanges) value final

variable {meddles : σ → σ → Prop} {run : Run σ α} {value : α} {state : σ}
  {post : List Exchange → α → σ → Prop}

theorem Ends.imp {permits : σ → σ → Prop} {exchanges : List Exchange} {final : σ}
    (implies : ∀ state after, meddles state after → permits state after)
    (ended : run.Ends meddles exchanges value final) : run.Ends permits exchanges value final := by
  induction ended with
  | done value state => exact .done value state
  | ask reply meddled further ih => exact .ask reply (implies _ _ meddled) ih

/-- An execution of two parts ends as the second does, begun where the first has ended. -/
theorem ends_andThen {next : α → σ → Run σ β} {exchanges : List Exchange} {result : β} {final : σ} :
    (run.andThen next).Ends meddles exchanges result final ↔
      ∃ first value middle rest, exchanges = first ++ rest ∧ run.Ends meddles first value middle ∧
        (next value middle).Ends meddles rest result final := by
  induction run generalizing exchanges with
  | done value state =>
      constructor
      · intro ended
        exact ⟨[], value, state, exchanges, rfl, .done value state, ended⟩
      · intro parts
        obtain ⟨_, _, _, rest, rfl, begun, ended⟩ := parts
        cases begun
        exact ended
  | ask request state resume ih =>
      constructor
      · intro ended
        cases ended with
        | ask reply meddled further =>
            obtain ⟨first, value, middle, rest, rfl, begun, ended⟩ := (ih reply _).mp further
            exact ⟨_, value, middle, rest, rfl, .ask reply meddled begun, ended⟩
      · intro parts
        obtain ⟨_, value, middle, rest, rfl, begun, ended⟩ := parts
        cases begun with
        | ask reply meddled further =>
            exact .ask reply meddled ((ih reply _).mpr ⟨_, value, middle, rest, rfl, further, ended⟩)

theorem ends_andThen_done {finish : α → β} {exchanges : List Exchange} {result : β} {final : σ} :
    (run.andThen fun value => done (finish value)).Ends meddles exchanges result final ↔
      ∃ value, run.Ends meddles exchanges value final ∧ finish value = result := by
  rw [ends_andThen]
  constructor
  · intro parts
    obtain ⟨first, value, middle, _, rfl, begun, ended⟩ := parts
    cases ended
    rw [List.append_nil]
    exact ⟨value, begun, rfl⟩
  · intro ended
    obtain ⟨value, ended, rfl⟩ := ended
    exact ⟨exchanges, value, final, [], (List.append_nil _).symm, ended, .done _ _⟩

/-- However an execution ends, it ends as stated. -/
def Ensures (meddles : σ → σ → Prop) (post : List Exchange → α → σ → Prop) (run : Run σ α) : Prop :=
  ∀ exchanges value final, run.Ends meddles exchanges value final → post exchanges value final

theorem Ensures.done (holds : post [] value state) : (done value state).Ensures meddles post := by
  intro exchanges value final ended
  cases ended
  exact holds

theorem Ensures.ask {request : Request} {resume : request.Reply → σ → Run σ α}
    (further : ∀ reply after, meddles state after →
      (resume reply after).Ensures meddles fun exchanges => post (⟨request, reply⟩ :: exchanges)) :
    (Run.ask request state resume).Ensures meddles post := by
  intro exchanges value final ended
  cases ended with
  | ask reply meddled rest => exact further reply _ meddled _ _ _ rest

theorem Ensures.imp {other : List Exchange → α → σ → Prop} (ensured : run.Ensures meddles post)
    (implies : ∀ exchanges value final, post exchanges value final → other exchanges value final) :
    run.Ensures meddles other := fun exchanges value final ended =>
  implies exchanges value final (ensured exchanges value final ended)

theorem Ensures.andThen {next : α → σ → Run σ β} {last : List Exchange → β → σ → Prop}
    (ensured : run.Ensures meddles fun first value middle =>
      (next value middle).Ensures meddles fun rest => last (first ++ rest)) :
    (run.andThen next).Ensures meddles last := by
  intro exchanges result final ended
  obtain ⟨first, value, middle, rest, rfl, begun, further⟩ := ends_andThen.mp ended
  exact ensured first value middle begun rest result final further

theorem ends_interpret {surroundings : Surroundings σ}
    (permitted : ∀ past request state, meddles state (surroundings past request state).2)
    (run : Run σ α) (past : List Exchange) :
    let outcome := run.interpret surroundings.answer past
    ∃ exchanges, outcome.2 = past ++ exchanges ∧
      run.Ends meddles exchanges outcome.1.1 outcome.1.2 := by
  induction run generalizing past with
  | done value state => exact ⟨[], (List.append_nil past).symm, .done value state⟩
  | ask request state resume ih =>
      obtain ⟨rest, logged, ended⟩ := ih (surroundings past request state).1
        (surroundings past request state).2
        (past ++ [⟨request, (surroundings past request state).1⟩])
      refine ⟨_, ?_, .ask _ (permitted past request state) ended⟩
      rw [List.append_cons]
      exact logged

end Run

namespace Action

variable {meddles : σ → σ → Prop} {post : List Exchange → α → σ → Prop} {start : σ}

theorem perform_ends {surroundings : Surroundings σ}
    (permitted : ∀ past request state, meddles state (surroundings past request state).2)
    (action : Action σ α) (start : σ) :
    let performance := action.perform surroundings start
    (action.start start).Ends meddles performance.exchanges performance.value performance.state := by
  obtain ⟨exchanges, logged, ended⟩ :=
    Run.ends_interpret permitted (action.start start) []
  rw [List.nil_append] at logged
  rw [← logged] at ended
  exact ended

theorem perform_of_ask {action : Action σ α} {replies : Replies} {request : Request} {state : σ}
    {resume : request.Reply → σ → Run σ α} (begins : action.start start = .ask request state resume) :
    let reply := replies [] request
    let outcome := (resume reply state).interpret replies.quiet.answer [⟨request, reply⟩]
    action.perform replies.quiet start = ⟨outcome.1.1, outcome.1.2, outcome.2⟩ := by
  rw [perform, begins]
  rfl

/-- However the action ends that is begun on `start`, it ends as stated. -/
def Ensures (meddles : σ → σ → Prop) (start : σ) (post : List Exchange → α → σ → Prop)
    (action : Action σ α) : Prop :=
  (action.start start).Ensures meddles post

theorem Ensures.pure {value : α} (holds : post [] value start) :
    (pure value : Action σ α).Ensures meddles start post := Run.Ensures.done holds

theorem Ensures.bind {first : Action σ α} {next : α → Action σ β}
    {last : List Exchange → β → σ → Prop}
    (ensured : first.Ensures meddles start fun before value middle =>
      (next value).Ensures meddles middle fun rest => last (before ++ rest)) :
    (first >>= next).Ensures meddles start last := Run.Ensures.andThen ensured

theorem Ensures.imp {action : Action σ α} {other : List Exchange → α → σ → Prop}
    (ensured : action.Ensures meddles start post)
    (implies : ∀ exchanges value final, post exchanges value final → other exchanges value final) :
    action.Ensures meddles start other := Run.Ensures.imp ensured implies

theorem Ensures.ask {request : Request} {post : List Exchange → request.Reply → σ → Prop}
    (holds : ∀ reply after, meddles start after → post [⟨request, reply⟩] reply after) :
    (ask request : Action σ request.Reply).Ensures meddles start post :=
  Run.Ensures.ask fun reply after meddled => Run.Ensures.done (holds reply after meddled)

theorem Ensures.call {call : DeviceCall} {post : List Exchange → call.Reply → σ → Prop}
    (holds : ∀ reply after, meddles start after → post [⟨.device call, reply⟩] reply after) :
    (Action.call call : Action σ call.Reply).Ensures meddles start post :=
  Run.Ensures.ask fun reply after meddled => Run.Ensures.done (holds reply after meddled)

theorem Ensures.get {next : σ → Action σ α} (ensured : (next start).Ensures meddles start post) :
    (MonadState.get >>= next : Action σ α).Ensures meddles start post := ensured

theorem Ensures.set {state : σ} {next : Action σ α} (ensured : next.Ensures meddles state post) :
    (MonadStateOf.set state >>= fun _ => next : Action σ α).Ensures meddles start post := ensured

theorem Ensures.modifyGet {change : σ → β × σ} {next : β → Action σ α}
    (ensured : (next (change start).1).Ensures meddles (change start).2 post) :
    (MonadStateOf.modifyGet change >>= next : Action σ α).Ensures meddles start post := ensured

theorem Ensures.releasing (handles : List Handle) {value : α}
    (holds : ∀ freed, freed.map Exchange.request = (referencesOf handles).map Request.freeBuffer →
      post freed value start) :
    (release handles >>= fun _ => Pure.pure value : Action σ α).Ensures Eq start post := by
  unfold release
  generalize referencesOf handles = natives at holds
  induction natives generalizing post with
  | nil => exact .pure (holds [] rfl)
  | cons native natives ih =>
      refine Run.Ensures.ask fun reply after same => ?_
      subst same
      refine ih fun freed frees => holds (⟨.freeBuffer native, reply⟩ :: freed) ?_
      rw [List.map_cons, List.map_cons, frees]

end Action
end

end Scanout

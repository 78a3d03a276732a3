import Scanout.Proofs.Coupling
import Scanout.Proofs.Reentry

/-!
Executions played out among surroundings that leave the state alone. Where other requests were made
before, the replies may depend on those, so a play goes on from a past. The play of a sequence is
put together from those of its parts, and an execution on a part of a state is played on the part.
-/

namespace Scanout

variable {σ τ α β : Type}

section Asks

variable {permits : Request → Prop}

/-- Whatever is replied, the execution makes only such requests. -/
def Run.Asks (permits : Request → Prop) : Run σ α → Prop
  | .done _ _ => True
  | .ask request _ resume => permits request ∧ ∀ reply after, (resume reply after).Asks permits

theorem Run.Asks.andThen {run : Run σ α} {next : α → σ → Run σ β} (asks : run.Asks permits)
    (further : ∀ value state, (next value state).Asks permits) :
    (run.andThen next).Asks permits := by
  induction run with
  | done value state => exact further value state
  | ask request state resume ih =>
      refine ⟨asks.1, ?_⟩
      intro reply after
      exact ih reply after (asks.2 reply after)

theorem Run.Asks.imp {other : Request → Prop} {run : Run σ α} (asks : run.Asks permits)
    (implies : ∀ request, permits request → other request) : run.Asks other := by
  induction run with
  | done value state => trivial
  | ask request state resume ih =>
      exact ⟨implies request asks.1, fun reply after => ih reply after (asks.2 reply after)⟩

theorem Run.Asks.within {part : τ → σ} {replace : σ → τ → τ} {run : Run σ α}
    (asks : run.Asks permits) (whole : τ) : (run.within part replace whole).Asks permits := by
  induction run generalizing whole with
  | done value state => trivial
  | ask request state resume ih =>
      exact ⟨asks.1, fun reply after => ih reply (part after) (asks.2 reply (part after)) after⟩

def Action.Asks (permits : Request → Prop) (action : Action σ α) : Prop :=
  ∀ state, (action.start state).Asks permits

theorem Action.Asks.bind {first : Action σ α} {next : α → Action σ β} (asks : first.Asks permits)
    (further : ∀ value, (next value).Asks permits) : (first >>= next).Asks permits := by
  intro state
  exact (asks state).andThen further

theorem Action.Asks.ask {request : Request} (permitted : permits request) :
    (Action.ask request : Action σ _).Asks permits := fun _ => ⟨permitted, fun _ _ => trivial⟩

theorem Action.Asks.forM {each : β → Action σ Unit} (list : List β)
    (asks : ∀ entry, (each entry).Asks permits) : (list.forM each).Asks permits := by
  induction list with
  | nil => exact fun _ => trivial
  | cons entry rest ih => exact (asks entry).bind fun _ => ih

theorem Action.asks_release (handles : List Handle) (permitted : ∀ native, permits (.freeBuffer native)) :
    (Action.release handles : Action σ Unit).Asks permits :=
  .forM _ fun native => .ask (permitted native)

end Asks

/-- One performance after another. -/
def Performance.followedBy (first : Performance σ α) (second : Performance σ β) : Performance σ β :=
  { second with exchanges := first.exchanges ++ second.exchanges }

/-- The execution carried through with the replies, after the requests of the past. -/
def Run.play (replies : Replies) : List Request → Run σ α → Performance σ α
  | _, .done value state => ⟨value, state, []⟩
  | past, .ask request state resume =>
      let reply := replies past request
      let rest := (resume reply state).play replies (past ++ [request])
      { rest with exchanges := ⟨request, reply⟩ :: rest.exchanges }

namespace Run

variable {replies : Replies}

theorem play_andThen (run : Run σ α) (next : α → σ → Run σ β) (past : List Request) :
    (run.andThen next).play replies past =
      let first := run.play replies past
      first.followedBy ((next first.value first.state).play replies (past ++ first.requests)) := by
  induction run generalizing past with
  | done value state => simp [play, Performance.followedBy, Performance.requests]
  | ask request state resume ih =>
      simp only [andThen, play, ih]
      simp [Performance.followedBy, Performance.requests]

theorem play_within {part : τ → σ} {replace : σ → τ → τ} (focus : Focus part replace)
    (run : Run σ α) (whole : τ) (past : List Request) :
    (run.within part replace whole).play replies past =
      let inner := run.play replies past
      ⟨inner.value, replace inner.state whole, inner.exchanges⟩ := by
  induction run generalizing whole past with
  | done value state => rfl
  | ask request state resume ih =>
      simp only [within, play, focus.part_replace, ih, focus.replace_replace]

/-- A play is one of the ways in which the execution can end. -/
theorem ends_play (run : Run σ α) (past : List Request) :
    let performance := run.play replies past
    run.Ends Eq performance.exchanges performance.value performance.state := by
  induction run generalizing past with
  | done value state => exact .done value state
  | ask request state resume ih => exact .ask (replies past request) rfl (ih _ state _)

theorem interpret_eq_play (run : Run σ α) (past : List Exchange) :
    run.interpret replies.quiet.answer past =
      let performance := run.play replies (past.map Exchange.request)
      ((performance.value, performance.state), past ++ performance.exchanges) := by
  induction run generalizing past with
  | done value state =>
      simp only [play, interpret, List.append_nil]
      rfl
  | ask request state resume ih =>
      let reply := replies (past.map Exchange.request) request
      have further := ih reply state (past ++ [⟨request, reply⟩])
      simp only [List.map_append, List.append_assoc] at further
      exact further

/-- An execution cannot tell apart replies that agree on what it asks. -/
theorem play_of_agree {permits : Request → Prop} {run : Run σ α} (asks : run.Asks permits)
    {one two : Replies} {here there : List Request}
    (agree : one.Agree (fun request => ¬permits request) here two there) :
    run.play one here = run.play two there := by
  induction run generalizing here there with
  | done value state => rfl
  | ask request state resume ih =>
      obtain ⟨permitted, asks⟩ := asks
      have same : one here request = two there request := by
        simpa using agree [] request fun absent => absent permitted
      have further : one.Agree (fun request => ¬permits request) (here ++ [request]) two
          (there ++ [request]) := by
        intro after asked bound
        simpa using agree (request :: after) asked bound
      simp only [play, same, ih _ _ (asks _ _) further]

theorem play_requests {permits : Request → Prop} {run : Run σ α} (asks : run.Asks permits)
    (replies : Replies) (past : List Request) : ∀ request ∈ (run.play replies past).requests, permits request := by
  induction run generalizing past with
  | done value state => simp [play, Performance.requests]
  | ask request state resume ih =>
      intro asked member
      cases List.mem_cons.mp member with
      | inl same => exact same ▸ asks.1
      | inr later => exact ih _ state (asks.2 _ _) (past ++ [request]) asked later

end Run

namespace Action

variable {replies : Replies}

def play (action : Action σ α) (replies : Replies) (past : List Request) (start : σ) :
    Performance σ α :=
  (action.start start).play replies past

theorem perform_eq_play (action : Action σ α) (start : σ) :
    action.perform replies.quiet start = action.play replies [] start := by
  rw [perform, Run.interpret_eq_play]
  rfl

theorem play_bind (first : Action σ α) (next : α → Action σ β) (past : List Request) (start : σ) :
    (first >>= next).play replies past start =
      let begun := first.play replies past start
      begun.followedBy ((next begun.value).play replies (past ++ begun.requests) begun.state) :=
  Run.play_andThen (first.start start) (fun value => (next value).start) past

end Action
end Scanout
